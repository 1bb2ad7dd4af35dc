/-
Reading JSON values. The first thing wrong with the text decides the
fault, and a value of the wrong kind is noticed at its first character.

Arrays and objects are read by two loops that take the reader of one
item; the value reader applies them to itself with one level of nesting
less, so the nesting that is left bounds its recursion.
-/
import FileDepot.Json.Scalar

namespace FileDepot.Json

-- ============================================================ loops

/-- The items of an array up to its closing bracket, one for each unit
of the first argument. -/
def itemsGo (item : Reader α) : Nat → Bool → Reader (List α)
  | 0, _, _ => .error .incomplete
  | steps + 1, first, cs =>
    let next (cs : List Char) := do
      let (v, rest) ← item cs
      let (vs, rest) ← itemsGo item steps false rest
      .ok (v :: vs, rest)
    match skipSpace cs with
    | [] => .error .incomplete
    | c :: rest =>
      if c = ']' then .ok ([], rest)
      else if first then next (c :: rest)
      else if c = ',' then
        match skipSpace rest with
        | [] => .error .incomplete
        | d :: rest => if d = ']' then .error .malformed else next (d :: rest)
      else .error .malformed

/-- The items of an array, after its opening bracket. -/
def items (item : Reader α) : Reader (List α) := fun cs =>
  itemsGo item (cs.length + 1) true cs

/-- The fields of an object up to its closing brace. Each key is handed
to `field` with the state so far and the text after the key. -/
def fieldsGo (field : σ → String → Reader σ) : Nat → Bool → σ → Reader σ
  | 0, _, _, _ => .error .incomplete
  | steps + 1, first, state, cs =>
    let next (cs : List Char) := do
      let (key, rest) ← string cs
      let (state, rest) ← field state key rest
      fieldsGo field steps false state rest
    match skipSpace cs with
    | [] => .error .incomplete
    | c :: rest =>
      if c = '\x7d' then .ok (state, rest)
      else if first then
        if c = '"' then next rest else .error .malformed
      else if c = ',' then
        match skipSpace rest with
        | [] => .error .incomplete
        | d :: rest => if d = '"' then next rest else .error .malformed
      else .error .malformed

/-- The fields of an object, after its opening brace. -/
def fields (field : σ → String → Reader σ) (state : σ) : Reader σ := fun cs =>
  fieldsGo field (cs.length + 1) true state cs

/-- The colon after a key. -/
def colon : Reader Unit := fun cs =>
  match skipSpace cs with
  | [] => .error .incomplete
  | c :: rest => if c = ':' then .ok ((), rest) else .error .malformed

-- =========================================================== values

/-- A value with at most `depth` arrays and objects inside one
another. -/
def value (depth : Nat) : Reader Json := fun cs =>
  match skipSpace cs with
  | [] => .error .incomplete
  | c :: rest =>
    if c = 'n' then do
      let (_, rest) ← expect "ull".toList rest
      .ok (.null, rest)
    else if c = 't' then do
      let (_, rest) ← expect "rue".toList rest
      .ok (.bool true, rest)
    else if c = 'f' then do
      let (_, rest) ← expect "alse".toList rest
      .ok (.bool false, rest)
    else if c = '-' then number true rest
    else if c.isDigit then number false (c :: rest)
    else if c = '"' then do
      let (s, rest) ← string rest
      .ok (.str s, rest)
    else if c = '[' then
      match depth with
      | 0 => .error .malformed
      | depth + 1 => do
        let (vs, rest) ← items (value depth) rest
        .ok (.arr vs, rest)
    else if c = '\x7b' then
      match depth with
      | 0 => .error .malformed
      | depth + 1 => do
        let (fs, rest) ←
          fields (fun fs key cs => do
            let (_, cs) ← colon cs
            let (v, rest) ← value depth cs
            .ok (insertField key v fs, rest)) [] rest
        .ok (.obj fs, rest)
    else .error .malformed

/-- A value that is passed over, nested to any depth. -/
def skipGo (depth : Nat) : Reader Unit := fun cs =>
  match skipSpace cs with
  | [] => .error .incomplete
  | c :: rest =>
    if c = 'n' then expect "ull".toList rest
    else if c = 't' then expect "rue".toList rest
    else if c = 'f' then expect "alse".toList rest
    else if c = '-' then skipNumber rest
    else if c.isDigit then skipNumber (c :: rest)
    else if c = '"' then skipString rest
    else
      match depth with
      | 0 => .error .incomplete
      | depth + 1 =>
        if c = '[' then do
          let (_, rest) ← items (skipGo depth) rest
          .ok ((), rest)
        else if c = '\x7b' then skipFields (skipGo depth) (rest.length + 1) true rest
        else .error .malformed
where
  /-- The fields of an object that is passed over. -/
  skipFields (item : Reader Unit) : Nat → Bool → Reader Unit
    | 0, _, _ => .error .incomplete
    | steps + 1, first, cs =>
      let next (cs : List Char) := do
        let (_, rest) ← skipString cs
        let (_, rest) ← colon rest
        let (_, rest) ← item rest
        skipFields item steps false rest
      match skipSpace cs with
      | [] => .error .incomplete
      | c :: rest =>
        if c = '\x7d' then .ok ((), rest)
        else if first then
          if c = '"' then next rest else .error .malformed
        else if c = ',' then
          match skipSpace rest with
          | [] => .error .incomplete
          | d :: rest => if d = '"' then next rest else .error .malformed
        else .error .malformed

/-- A value that is passed over. -/
def skip : Reader Unit := fun cs => skipGo cs.length cs

-- ================================================== typed documents

/-- What is wrong with a value of a kind that is not wanted: the fault
of reading it, or its being of the wrong kind. -/
def mismatch (cs : List Char) : Fault :=
  match skipSpace cs with
  | c :: _ =>
    if c = '[' ∨ c = '\x7b' then .mismatched
    else
      match value 0 cs with
      | .ok _ => .mismatched
      | .error fault => fault
  | [] => .incomplete

/-- A string value. -/
def textValue : Reader String := fun cs =>
  match skipSpace cs with
  | c :: rest => if c = '"' then string rest else .error (mismatch cs)
  | [] => .error .incomplete

/-- A string value, or null for none. -/
def optionalText : Reader (Option String) := fun cs =>
  match skipSpace cs with
  | c :: rest =>
    if c = 'n' then do
      let (_, rest) ← expect "ull".toList rest
      .ok (none, rest)
    else do
      let (s, rest) ← textValue (c :: rest)
      .ok (some s, rest)
  | [] => .error .incomplete

/-- A whole number that is not negative. -/
def naturalValue : Reader Nat := fun cs =>
  match skipSpace cs with
  | c :: rest =>
    if c = '-' ∨ c.isDigit then do
      let (v, rest) ←
        if c = '-' then number true rest else number false (c :: rest)
      match v with
      | .int n => if 0 ≤ n then .ok (n.toNat, rest) else .error .mismatched
      | _ => .error .mismatched
    else .error (mismatch cs)
  | [] => .error .incomplete

/-- The end of the text. -/
def finished (cs : List Char) : Except Fault Unit :=
  if (skipSpace cs).isEmpty then .ok () else .error .malformed

/-- Reads a whole text. -/
def readAll (reader : Reader α) (text : String) : Except Fault α := do
  let (v, rest) ← reader text.toList
  finished rest
  .ok v

/-- The nesting that a text may have: 127 arrays and objects inside one
another. -/
def maxDepth : Nat := 127

/-- Reads the text of one value. -/
def parse (text : String) : Except Fault Json := readAll (value maxDepth) text

end FileDepot.Json
