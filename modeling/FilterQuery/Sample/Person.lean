import FilterQuery.Declaration
import FilterQuery.Json.Records

/-!
# A sample filter: people

A filter type with fields of every kind, an embedded filter, renamed fields and relation paths.

* `AuditFilter`, `PersonFilter`, and how they are read from JSON;
* `PersonFilter.declarations`.
-/

namespace FilterQuery.Sample

open Json (Decoder DecodeError record)

/-- What is asked about the record of a person. -/
structure AuditFilter where
  createdOn : Option Date := none
  archived : Option Bool := none
  name : Option String := none

/-- What is asked about a person. Unset fields ask for nothing. -/
structure PersonFilter where
  audit : AuditFilter := {}
  name : Option String := none
  status : Option String := none
  excluded : Option (List String) := none
  born : Option (List Date) := none
  city : Option String := none
  sex : Option String := none
  activeDays : Option Int64 := none
  age : Option Int64 := none
  score : Option Double := none
  signed : Option Range := none
  seen : Option Instant := none
  note : Option Value := none
  roles : Option Int64 := none

/-! ## Declarations -/

section

variable {F α : Type}

/-- A field with one value. -/
def one (read : F → Option α) (value : α → Value) (object : F) :
    Except QueryError (Option Input) :=
  .ok ((read object).map fun a => .scalar (value a))

/-- A field with a list of values. -/
def many (read : F → Option (List α)) (value : α → Value) (object : F) :
    Except QueryError (Option Input) :=
  .ok ((read object).map fun items => .list (items.map value))

end

def AuditFilter.declarations : Declarations AuditFilter :=
  Declarations.empty
    |>.field ⟨"created_on", .onDate, ""⟩ (one AuditFilter.createdOn Value.date)
    |>.field ⟨"archived", .isNull, ""⟩ (one AuditFilter.archived Value.bool)
    |>.field ⟨"name", .like, ""⟩ (one AuditFilter.name Value.text)

def PersonFilter.declarations : Declarations PersonFilter :=
  (AuditFilter.declarations.inherit PersonFilter.audit)
    |>.field ⟨"name", .startsWith, ""⟩ (one PersonFilter.name Value.text)
    |>.field ⟨"status", .equal, "account.status"⟩ (one PersonFilter.status Value.text)
    |>.field ⟨"excludedStatus", .notIn, ""⟩ (many PersonFilter.excluded Value.text)
    |>.field ⟨"born", .between, ""⟩ (many PersonFilter.born Value.date)
    |>.field ⟨"city", .equal, "account.owner.city"⟩ (one PersonFilter.city Value.text)
    |>.field ⟨"tipoSexoDescricao", .endsWith, "tipoSexo.nome"⟩ (one PersonFilter.sex Value.text)
    |>.field ⟨"activeDays", .inLastDays, "account.lastLogin"⟩
      (one PersonFilter.activeDays Value.int)
    |>.field ⟨"age", .greaterThan, ""⟩ (one PersonFilter.age Value.int)
    |>.field ⟨"score", .lessOrEqual, ""⟩ (one PersonFilter.score Value.float)
    |>.field ⟨"signed", .betweenExclusive, ""⟩ (fun object => .ok (object.signed.map .range))
    |>.field ⟨"seen", .greaterOrEqual, ""⟩ (one PersonFilter.seen Value.instant)
    |>.field ⟨"note", .notEqual, ""⟩ (one PersonFilter.note id)
    |>.field ⟨"roles", .sizeGt, "account.roles"⟩ (one PersonFilter.roles Value.int)

/-- The filter of people, under a name. -/
def PersonFilter.filterType (name : String) : FilterType PersonFilter :=
  ⟨name, PersonFilter.declarations⟩

/-! ## Reading

Fields are read in the order in which the JSON holds them, so that of two bad ones the first
counts. -/

/-- Set the field that a name stands for. -/
def AuditFilter.set (f : AuditFilter) (name : String) (j : Json) :
    Except DecodeError AuditFilter :=
  match name with
  | "created_on" => do
    return { f with createdOn := ← Decoder.nullable (Decoder.ofText Date.readLenient?) j }
  | "archived" => do return { f with archived := ← Decoder.nullable Decoder.boolean j }
  | "name" => do return { f with name := ← Decoder.nullable Decoder.text j }
  | _ => .ok f

def AuditFilter.ofJson : Decoder AuditFilter :=
  record ["created_on", "archived", "name"] fun fields =>
    fields.foldlM (fun f (name, j) => f.set name j) {}

/-- Set the field that a name stands for. -/
def PersonFilter.set (f : PersonFilter) (name : String) (j : Json) :
    Except DecodeError PersonFilter :=
  match name with
  | "audit" => do return { f with audit := ← AuditFilter.ofJson j }
  | "name" => do return { f with name := ← Decoder.nullable Decoder.text j }
  | "status" => do return { f with status := ← Decoder.nullable Decoder.text j }
  | "excluded" => do
    return { f with excluded := ← Decoder.nullable (Decoder.list Decoder.text) j }
  | "born" => do
    return { f with
      born := ← Decoder.nullable (Decoder.list (Decoder.ofText Date.readLenient?)) j }
  | "city" => do return { f with city := ← Decoder.nullable Decoder.text j }
  | "tipo_sexo" => do return { f with sex := ← Decoder.nullable Decoder.text j }
  | "active_days" => do return { f with activeDays := ← Decoder.nullable Decoder.long j }
  | "age" => do return { f with age := ← Decoder.nullable Decoder.short j }
  | "score" => do return { f with score := ← Decoder.nullable Decoder.double j }
  | "signed" => do return { f with signed := ← Decoder.nullable Range.ofJson j }
  | "seen" => do
    return { f with seen := ← Decoder.nullable (Decoder.ofText Instant.readLenient?) j }
  | "note" => do return { f with note := ← Decoder.nullable (fun j => .ok (Value.ofJson j)) j }
  | "roles" => do return { f with roles := ← Decoder.nullable Decoder.long j }
  | _ => .ok f

def PersonFilter.ofJson : Decoder PersonFilter :=
  record ["audit", "name", "status", "excluded", "born", "city", "tipo_sexo", "active_days", "age",
      "score", "signed", "seen", "note", "roles"] fun fields =>
    fields.foldlM (fun f (name, j) => f.set name j) {}

end FilterQuery.Sample
