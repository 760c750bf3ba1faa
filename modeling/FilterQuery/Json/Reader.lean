import FilterQuery.Double.Scaling
import FilterQuery.Json.Basic
import FilterQuery.Text.Number

/-!
# Reading JSON

A text is cut into tokens by a scanner that looks at one character at a time, and the tokens are put
together by a builder that keeps the containers still open on a stack. Both are folds.

* `Token`, `Scan.step`, `tokens?`: quoted texts, punctuation, and words, which are numbers and
  literals;
* `Build.step`, `Json.read?`: the value that a text stands for.
-/

namespace FilterQuery.Json

/-- A piece of JSON text. -/
inductive Token where
  | mark (c : Char)
  | text (s : String)
  | word (cs : List Char)
deriving Repr

/-! ## Scanning -/

/-- Where the scanner is. Characters read so far are held last first. -/
inductive ScanMode where
  | between
  | word (done : List Char)
  /-- Inside quotes; `high` is the first half of a surrogate pair that waits for its second. -/
  | text (done : List Char) (high : Option Nat)
  | escape (done : List Char) (high : Option Nat)
  /-- After a hexadecimal escape was opened, with the digits still missing and their value. -/
  | hex (done : List Char) (high : Option Nat) (missing value : Nat)

/-- The scanner: its mode, and the tokens so far, last first. -/
structure Scan where
  mode : ScanMode
  tokens : List Token

namespace Scan

def isMark (c : Char) : Bool := "[]\x7b\x7d:,".toList.contains c

def isGap (c : Char) : Bool := c == ' ' || c == '\n' || c == '\t' || c == '\r'

/-- A character of a number or a literal. -/
def isWordPart (c : Char) : Bool := c.isAlphanum || c == '-' || c == '+' || c == '.'

def hexValue? (c : Char) : Option Nat :=
  if c.isDigit then some (c.toNat - 48)
  else if 'a' ≤ c ∧ c ≤ 'f' then some (c.toNat - 87)
  else if 'A' ≤ c ∧ c ≤ 'F' then some (c.toNat - 55)
  else none

/-- The character that a short escape stands for. -/
def escaped? : Char → Option Char
  | '"' => some '"'
  | '\\' => some '\\'
  | '/' => some '/'
  | 'b' => some '\x08'
  | 'f' => some '\x0c'
  | 'n' => some '\n'
  | 'r' => some '\r'
  | 't' => some '\t'
  | _ => none

/-- Use a code unit from a hexadecimal escape, with the half that may precede it. -/
def addUnit (done : List Char) (high : Option Nat) (unit : Nat) : Option ScanMode :=
  match high with
  | some h =>
    if 0xDC00 ≤ unit ∧ unit < 0xE000 then
      some (.text (Char.ofNat (0x10000 + (h - 0xD800) * 0x400 + (unit - 0xDC00)) :: done) none)
    else none
  | none =>
    if 0xD800 ≤ unit ∧ unit < 0xDC00 then some (.text done (some unit))
    else if 0xDC00 ≤ unit ∧ unit < 0xE000 then none
    else some (.text (Char.ofNat unit :: done) none)

/-- A character outside quotes, where no word is open. -/
def start (tokens : List Token) (c : Char) : Option Scan :=
  if c = '"' then some ⟨.text [] none, tokens⟩
  else if isMark c then some ⟨.between, .mark c :: tokens⟩
  else if isGap c then some ⟨.between, tokens⟩
  else if isWordPart c then some ⟨.word [c], tokens⟩
  else none

/-- Look at one more character. -/
def step (s : Scan) (c : Char) : Option Scan :=
  match s.mode with
  | .between => start s.tokens c
  | .word done =>
    if isWordPart c then some { s with mode := .word (c :: done) }
    else start (.word done.reverse :: s.tokens) c
  | .text done high =>
    if c = '\\' then some { s with mode := .escape done high }
    else if high.isSome then none
    else if c = '"' then some ⟨.between, .text (String.ofList done.reverse) :: s.tokens⟩
    else if c.toNat < 32 then none
    else some { s with mode := .text (c :: done) none }
  | .escape done high =>
    if c = 'u' then some { s with mode := .hex done high 4 0 }
    else if high.isSome then none
    else (escaped? c).map fun e => { s with mode := .text (e :: done) none }
  | .hex done high missing value =>
    match hexValue? c with
    | none => none
    | some d =>
      if missing ≤ 1 then (addUnit done high (16 * value + d)).map fun m => { s with mode := m }
      else some { s with mode := .hex done high (missing - 1) (16 * value + d) }

end Scan

/-- The tokens of a text. -/
def tokens? (s : String) : Option (List Token) := do
  let last ← s.toList.foldlM Scan.step ⟨.between, []⟩
  match last.mode with
  | .between => some last.tokens.reverse
  | .word done => some (.word done.reverse :: last.tokens).reverse
  | _ => none

/-! ## Numbers -/

/-- Digits at the front: at least one, and the characters after them. -/
def digits? (cs : List Char) : Option (List Char × List Char) :=
  let ds := cs.takeWhile Char.isDigit
  if ds.isEmpty then none else some (ds, cs.dropWhile Char.isDigit)

/-- The exponent at the end of a number, if there is one. -/
def exponent? : List Char → Option Int
  | [] => some 0
  | e :: cs =>
    if e ≠ 'e' ∧ e ≠ 'E' then none
    else
      let (negative, cs) := match cs with
        | '-' :: cs => (true, cs)
        | '+' :: cs => (false, cs)
        | cs => (false, cs)
      match digits? cs with
      | some (ds, []) =>
        let n : Int := Text.digitsValue ds
        some (if negative then -n else n)
      | _ => none

/-- The number `n` with as many of the digits after it as a 64-bit word holds, and how many those
are. -/
def fitting (n : Nat) : List Char → Nat × Nat
  | [] => (n, 0)
  | d :: ds =>
    let m := 10 * n + Text.digitsValue [d]
    if m < UInt64.size then
      let (word, count) := fitting m ds
      (word, count + 1)
    else (n, 0)

/-- A double from the digits before and after the point and an exponent. As many digits as fit a
word are a double, which is then scaled; both steps round, so of long numbers the last bit may
differ from that of the nearest double. A number beyond all doubles is refused. -/
def ofDigits? (negative : Bool) (whole part : List Char) (e : Int) : Option Json :=
  let (n, wholeCount) := fitting 0 whole
  let (n, partCount) := fitting n part
  let x := (Double.ofRatio negative n 1).scaled (e + (whole.length - wholeCount) - partCount)
  if x.isFinite then some (float x) else none

/-- An integer in reach of 64 bits stays one, but the negative zero does not. -/
def ofInteger? (negative : Bool) (whole : List Char) : Option Json :=
  let n := Text.digitsValue whole
  if n < UInt64.size ∧ negative = false then some (int n)
  else if 0 < n ∧ n ≤ Nat.pow 2 63 then some (int (-(n : Int)))
  else ofDigits? negative whole [] 0

/-- A number without its sign: no needless zero in front, an optional fraction, an optional
exponent. -/
def unsigned? (negative : Bool) (cs : List Char) : Option Json := do
  let (whole, rest) ← digits? cs
  if whole.length > 1 ∧ whole.head? = some '0' then none
  else match rest with
    | [] => ofInteger? negative whole
    | '.' :: rest => do
      let (part, rest) ← digits? rest
      ofDigits? negative whole part (← exponent? rest)
    | rest => do ofDigits? negative whole [] (← exponent? rest)

/-- A literal or a number. -/
def ofWord? (cs : List Char) : Option Json :=
  if cs = "null".toList then some null
  else if cs = "true".toList then some (bool true)
  else if cs = "false".toList then some (bool false)
  else match cs with
    | '-' :: rest => unsigned? true rest
    | cs => unsigned? false cs

/-! ## Building -/

/-- A container that is still open, with what it holds so far. -/
inductive Frame where
  | arr (items : List Json)
  | obj (fields : List (String × Json)) (name : String)

/-- What has to come next. -/
inductive Awaited where
  | value
  | valueOrClose
  | name (fields : List (String × Json))
  | nameOrClose
  | colon (fields : List (String × Json)) (name : String)
  | separator
  | nothing (v : Json)

/-- The builder: the open containers, innermost first, and what has to come next. -/
structure Build where
  stack : List Frame
  awaited : Awaited

namespace Build

/-- Hand a finished value to the innermost container. -/
def close (v : Json) : List Frame → Build
  | [] => ⟨[], .nothing v⟩
  | .arr items :: stack => ⟨.arr (items ++ [v]) :: stack, .separator⟩
  | .obj fields name :: stack => ⟨.obj (setField name v fields) name :: stack, .separator⟩

/-- A value, or the opening of one. -/
def start (stack : List Frame) : Token → Option Build
  | .mark '[' => some ⟨.arr [] :: stack, .valueOrClose⟩
  | .mark '\x7b' => some ⟨stack, .nameOrClose⟩
  | .mark _ => none
  | .text s => some (close (str s) stack)
  | .word cs => (ofWord? cs).map (close · stack)

/-- Use one more token. -/
def step (b : Build) (t : Token) : Option Build :=
  match b.awaited, t, b.stack with
  | .value, t, stack => start stack t
  | .valueOrClose, .mark ']', .arr items :: stack => some (close (arr items) stack)
  | .valueOrClose, t, stack => start stack t
  | .name fields, .text s, stack => some ⟨stack, .colon fields s⟩
  | .nameOrClose, .mark '\x7d', stack => some (close (obj []) stack)
  | .nameOrClose, .text s, stack => some ⟨stack, .colon [] s⟩
  | .colon fields s, .mark ':', stack => some ⟨.obj fields s :: stack, .value⟩
  | .separator, .mark ',', .arr items :: stack => some ⟨.arr items :: stack, .value⟩
  | .separator, .mark ']', .arr items :: stack => some (close (arr items) stack)
  | .separator, .mark ',', .obj fields _ :: stack => some ⟨stack, .name fields⟩
  | .separator, .mark '\x7d', .obj fields _ :: stack => some (close (obj fields) stack)
  | _, _, _ => none

end Build

/-- The value that a text stands for. -/
def read? (s : String) : Option Json := do
  let b ← (← tokens? s).foldlM Build.step ⟨[], .value⟩
  match b.awaited with
  | .nothing v => some v
  | _ => none

end FilterQuery.Json
