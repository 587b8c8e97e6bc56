import PresenceSeal.Json.Scan

/-! Reading values. A kept value may nest only as deep as its budget of
containers allows; a skipped value may nest at will, since only its form is
looked at. Typed readers report what they found instead as soon as they see the
first sign of it. -/
namespace PresenceSeal.Json

/-- Reads a value while at most `budget` containers may be opened inside each other. -/
abbrev Decoder (α : Type) := (budget : Nat) → Reader α

/-- The containers that may be open at once in a document. -/
def maxDepth : Nat := 127

namespace Reader

/-- Whether another item follows in a list. A comma in front of it is taken; a
closing bracket is left. -/
def anotherItem (first : Bool) : Reader Bool := fun text =>
  match skipSpace text with
  | [] => .error .endInList
  | ']' :: rest => .ok (false, ']' :: rest)
  | c :: rest =>
    if first then .ok (true, c :: rest)
    else if c = ',' then
      match skipSpace rest with
      | [] => .error .endInValue
      | ']' :: _ => .error .trailingComma
      | rest => .ok (true, rest)
    else .error .expectedListEnd

def closeList : Reader Unit := fun text =>
  match skipSpace text with
  | [] => .error .endInList
  | ']' :: rest => .ok ((), rest)
  | ',' :: rest =>
    match skipSpace rest with
    | ']' :: _ => .error .trailingComma
    | _ => .error .trailingCharacters
  | _ => .error .trailingCharacters

/-- The opening quotation mark of a key; `afterComma` tells what a closing brace means here. -/
def openKey (text : List Char) : Except Error (List Char) :=
  match text with
  | [] => .error .endInValue
  | '"' :: rest => .ok rest
  | '\x7d' :: _ => .error .trailingComma
  | _ => .error .keyMustBeString

/-- The next key of an object, if another member follows. A comma in front of it
is taken; a closing brace is left. -/
def anotherKey (first : Bool) : Reader (Option String) := fun text =>
  match skipSpace text with
  | [] => .error .endInObject
  | '\x7d' :: rest => .ok (none, '\x7d' :: rest)
  | c :: rest => do
    let inside ←
      if first then openKey (c :: rest)
      else if c = ',' then openKey (skipSpace rest)
      else .error .expectedObjectEnd
    let (key, rest) ← stringBody inside
    .ok (some key, rest)

def closeObject : Reader Unit := fun text =>
  match skipSpace text with
  | [] => .error .endInObject
  | '\x7d' :: rest => .ok ((), rest)
  | ',' :: _ => .error .trailingComma
  | _ => .error .trailingCharacters

def colon : Reader Unit := fun text =>
  match skipSpace text with
  | [] => .error .endInObject
  | ':' :: rest => .ok ((), rest)
  | _ => .error .expectedColon

/-- The items of a list up to its closing bracket, in at most `fuel` steps. Every
item takes a character. -/
def itemSteps (item : Reader α) : (fuel : Nat) → (first : Bool) → Reader (List α)
  | 0, _ => throw .endInList
  | fuel + 1, first => do
    if ← anotherItem first then
      let x ← item
      let rest ← itemSteps item fuel false
      pure (x :: rest)
    else pure []

/-- The members of an object up to its closing brace, in at most `fuel` steps.
What has been gathered so far goes through `member`, which reads the colon and
the value. Every member takes a character. -/
def memberSteps (member : σ → String → Reader σ) :
    (fuel : Nat) → (first : Bool) → σ → Reader σ
  | 0, _, _ => throw .endInObject
  | fuel + 1, first, gathered => do
    match ← anotherKey first with
    | none => pure gathered
    | some key =>
      let gathered ← member gathered key
      memberSteps member fuel false gathered

/-- The items of a list whose bracket has been read, and its end. -/
def items (item : Reader α) : Reader (List α) := do
  let text ← get
  let xs ← itemSteps item (text.length + 1) true
  closeList
  pure xs

/-- The members of an object whose brace has been read, up to its end, which is left. -/
def members (member : σ → String → Reader σ) (start : σ) : Reader σ := do
  let text ← get
  memberSteps member (text.length + 1) true start

def value (budget : Nat) : Reader Json := fun text =>
  match skipSpace text with
  | [] => .error .endInValue
  | 'n' :: rest => (ident ['u', 'l', 'l'] rest).map fun (_, rest) => (.null, rest)
  | 't' :: rest => (ident ['r', 'u', 'e'] rest).map fun (_, rest) => (.bool true, rest)
  | 'f' :: rest => (ident ['a', 'l', 's', 'e'] rest).map fun (_, rest) => (.bool false, rest)
  | '"' :: rest => (stringBody rest).map fun (s, rest) => (.string s, rest)
  | '[' :: rest =>
    match budget with
    | 0 => .error .recursionLimit
    | budget + 1 => (items (value budget) rest).map fun (xs, rest) => (.array xs, rest)
  | '\x7b' :: rest =>
    match budget with
    | 0 => .error .recursionLimit
    | budget + 1 => do
      let member (entries : List (String × Json)) (key : String) : Reader _ := do
        colon
        let v ← value budget
        pure (entries ++ [(key, v)])
      let (entries, rest) ← members member [] rest
      let (_, rest) ← closeObject rest
      .ok (ofEntries entries, rest)
  | c :: rest =>
    if c = '-' ∨ Text.isDigit c then
      (Reader.number (c :: rest)).map fun (n, rest) => (.number n, rest)
    else .error .expectedValue

/-- What follows a skipped item: more items behind commas, or the end. -/
def skipItems (item : Reader Unit) : (fuel : Nat) → Reader Unit
  | 0 => throw .endInList
  | fuel + 1 => fun text =>
    match skipSpace text with
    | [] => .error .endInList
    | ']' :: rest => .ok ((), rest)
    | ',' :: rest =>
      match item rest with
      | .error e => .error e
      | .ok (_, rest) => skipItems item fuel rest
    | _ => .error .expectedListEnd

/-- A skipped key, its colon and its value. -/
def skipMember (item : Reader Unit) : Reader Unit := fun text =>
  match skipSpace text with
  | [] => .error .endInObject
  | '"' :: rest =>
    match skippedString rest with
    | .error e => .error e
    | .ok (_, rest) =>
      match colon rest with
      | .error e => .error e
      | .ok (_, rest) => item rest
  | _ => .error .keyMustBeString

/-- What follows a skipped member: more members behind commas, or the end. -/
def skipMembers (item : Reader Unit) : (fuel : Nat) → Reader Unit
  | 0 => throw .endInObject
  | fuel + 1 => fun text =>
    match skipSpace text with
    | [] => .error .endInObject
    | '\x7d' :: rest => .ok ((), rest)
    | ',' :: rest =>
      match skipMember item rest with
      | .error e => .error e
      | .ok (_, rest) => skipMembers item fuel rest
    | _ => .error .expectedObjectEnd

/-- Passes over a value in which at most `depth` containers are nested. -/
def skipSteps (depth : Nat) : Reader Unit := fun text =>
  match skipSpace text with
  | [] => .error .endInValue
  | 'n' :: rest => ident ['u', 'l', 'l'] rest
  | 't' :: rest => ident ['r', 'u', 'e'] rest
  | 'f' :: rest => ident ['a', 'l', 's', 'e'] rest
  | '"' :: rest => skippedString rest
  | '[' :: rest =>
    match depth with
    | 0 => .error .endInList
    | depth + 1 =>
      match skipSpace rest with
      | [] => .error .endInList
      | ']' :: rest => .ok ((), rest)
      | rest =>
        match skipSteps depth rest with
        | .error e => .error e
        | .ok (_, rest) => skipItems (skipSteps depth) (rest.length + 1) rest
  | '\x7b' :: rest =>
    match depth with
    | 0 => .error .endInObject
    | depth + 1 =>
      match skipSpace rest with
      | [] => .error .endInObject
      | '\x7d' :: rest => .ok ((), rest)
      | rest =>
        match skipMember (skipSteps depth) rest with
        | .error e => .error e
        | .ok (_, rest) => skipMembers (skipSteps depth) (rest.length + 1) rest
  | c :: rest =>
    if c = '-' ∨ Text.isDigit c then Reader.skippedNumber (c :: rest) else .error .expectedValue

/-- Passes over a value. No text nests deeper than it is long. -/
def skip : Reader Unit := fun text => skipSteps text.length text

/-- The mismatch between what is expected and the value in front of the text, of
which no more is read than its kind needs. -/
def mismatch (expected : String) (text : List Char) : Error :=
  let because : Except Error Found :=
    match text with
    | 'n' :: rest => (ident ['u', 'l', 'l'] rest).map fun _ => .null
    | 't' :: rest => (ident ['r', 'u', 'e'] rest).map fun _ => .bool true
    | 'f' :: rest => (ident ['a', 'l', 's', 'e'] rest).map fun _ => .bool false
    | '"' :: rest => (stringBody rest).map fun (s, _) => .string s
    | '[' :: _ => .ok .sequence
    | '\x7b' :: _ => .ok .map
    | c :: rest =>
      if c = '-' ∨ Text.isDigit c then
        (Reader.number (c :: rest)).map fun (n, _) => .number n
      else .error .expectedValue
    | [] => .error .expectedValue
  match because with
  | .error e => e
  | .ok found => .invalidType found expected

def string (expected : String) : Reader String := fun text =>
  match skipSpace text with
  | [] => .error .endInValue
  | '"' :: rest => stringBody rest
  | text => .error (mismatch expected text)

def bool : Reader Bool := fun text =>
  match skipSpace text with
  | [] => .error .endInValue
  | 't' :: rest => (ident ['r', 'u', 'e'] rest).map fun (_, rest) => (true, rest)
  | 'f' :: rest => (ident ['a', 'l', 's', 'e'] rest).map fun (_, rest) => (false, rest)
  | text => .error (mismatch "a boolean" text)

/-- The null that stands for a variant without payload. -/
def unit : Reader Unit := fun text =>
  match skipSpace text with
  | [] => .error .endInValue
  | 'n' :: rest => ident ['u', 'l', 'l'] rest
  | text => .error (mismatch "unit" text)

def optional (inner : Reader α) : Reader (Option α) := fun text =>
  match skipSpace text with
  | 'n' :: rest => (ident ['u', 'l', 'l'] rest).map fun (_, rest) => (none, rest)
  | text => (inner text).map fun (x, rest) => (some x, rest)

/-- What a variant's name stands for. -/
def variantNamed (variants : List (String × α)) (name : String) : Except Error α :=
  match variants.lookup name with
  | some x => .ok x
  | none => .error (.unknownVariant name (variants.map (·.1)))

/-- One of some named variants, written as its name or as an object of the name and null. -/
def choice (variants : List (String × α)) : Decoder α := fun budget text =>
  match skipSpace text with
  | [] => .error .endInValue
  | '"' :: rest => do
    let (name, rest) ← stringBody rest
    let x ← variantNamed variants name
    .ok (x, rest)
  | '\x7b' :: rest =>
    if budget = 0 then .error .recursionLimit
    else match skipSpace rest with
      | [] => .error .endInObject
      | '"' :: rest => do
        let (name, rest) ← stringBody rest
        let x ← variantNamed variants name
        let (_, rest) ← colon rest
        let (_, rest) ← unit rest
        match skipSpace rest with
        | [] => .error .endInObject
        | '\x7d' :: rest => .ok (x, rest)
        | _ => .error .expectedValue
      | '\x7d' :: _ => .error .expectedValue
      | _ => .error .keyMustBeString
  | _ => .error .expectedValue

end Reader

/-- A whole document: one value, and only blanks behind it. -/
def document (decoder : Decoder α) (text : List Char) : Except Error α := do
  let (x, rest) ← decoder maxDepth text
  match skipSpace rest with
  | [] => .ok x
  | _ => .error .trailingCharacters

def parse (text : List Char) : Except Error Json := document Reader.value text

end PresenceSeal.Json
