import FilterQuery.JoinType
import FilterQuery.Text.Blank
import FilterQuery.Text.Number

/-!
# Settings of a compiler

* `CompilerConfig`: the join type and two limits, with defaults;
* `CompilerConfig.validate`: both limits are at least one;
* `CompilerConfig.fromLookup`: settings from named texts, such as the environment of a process.
-/

namespace FilterQuery

/-- What all compilations of a compiler share. The limits are 64-bit numbers. -/
structure CompilerConfig where
  joinType : JoinType := .left
  /-- The greatest number of joins for one relation path. -/
  maxRelationDepth : Nat := 8
  /-- The longest list for membership operators. -/
  maxListLen : Nat := 1000
deriving DecidableEq, Repr, Inhabited

namespace CompilerConfig

def joinTypeKey : String := "SIEVE_JOIN_TYPE"

def maxRelationDepthKey : String := "SIEVE_MAX_RELATION_DEPTH"

def maxListLenKey : String := "SIEVE_MAX_LIST_LEN"

/-- Both limits are at least one. -/
def validate (c : CompilerConfig) : Except QueryError Unit :=
  if c.maxRelationDepth = 0 then
    .error (.invalidConfiguration "max_relation_depth must be at least 1")
  else if c.maxListLen = 0 then
    .error (.invalidConfiguration "max_list_len must be at least 1")
  else .ok ()

/-- A limit from the text under a key, with blanks around it at most. -/
def readLimit (key raw : String) : Except QueryError Nat :=
  match Text.readWord (Text.trim raw) with
  | .ok n => .ok n
  | .error fault =>
    .error ((QueryError.invalidConfiguration
      (key ++ " must be a positive integer, got '" ++ raw ++ "'")).withSource fault.message)

/-- A setting, or its default if nothing is under its key. -/
def setting {α : Type} (lookup : String → Option String) (key : String) (default : α)
    (read : String → Except QueryError α) : Except QueryError α :=
  match lookup key with
  | none => .ok default
  | some raw => read raw

/-- The settings under their keys, with defaults for those that are not there. -/
def fromLookup (lookup : String → Option String) : Except QueryError CompilerConfig := do
  let joinType ← setting lookup joinTypeKey .left JoinType.read
  let maxRelationDepth ← setting lookup maxRelationDepthKey 8 (readLimit maxRelationDepthKey)
  let maxListLen ← setting lookup maxListLenKey 1000 (readLimit maxListLenKey)
  let config : CompilerConfig := ⟨joinType, maxRelationDepth, maxListLen⟩
  config.validate
  return config

end CompilerConfig

end FilterQuery
