import MarkLint.Text.Lines
import MarkLint.Toml.Scalar

/-!
# Reading TOML

`Toml.read` reads a whole document. Beyond the form of each line it is checked that nothing is defined twice: a table
may be opened once, tables that dotted keys have created cannot be opened or extended later, and inline tables and
arrays are closed for good.
-/

namespace MarkLint.Toml

open MarkLint.Text

/-! ## Keys and values -/

/-- May `c` stand in a key without quotes? -/
def isBareKeyChar (c : Char) : Bool := c.isAlphanum || c == '-' || c == '_'

/-- Reads a part of a dotted key. -/
def keyPart? (s : List Char) : Option (String × List Char) :=
  let bare := s.takeWhile isBareKeyChar
  if bare.isEmpty then (quoted? s).map fun (t, rest) => (String.ofList t, rest)
  else some (String.ofList bare, s.drop bare.length)

/-- Reads a dotted key and the spaces after it. -/
def key? : (fuel : Nat) → Reader Key
  | 0, _ => none
  | fuel + 1, s => do
    let (part, rest) ← keyPart? s
    match skipSpaces rest with
    | '.' :: more =>
      let (parts, rest) ← key? fuel (skipSpaces more)
      return (part :: parts, rest)
    | rest => return ([part], rest)

/-- The text after a comment, if there is one. -/
def skipComment? (s : List Char) : Option (List Char) :=
  match s with
  | '#' :: rest =>
    if (rest.takeWhile (· != '\n')).any isControl then none else some (rest.dropWhile (· != '\n'))
  | _ => some s

/-- The text after white space, line breaks and comments. -/
def skipGap? : (fuel : Nat) → List Char → Option (List Char)
  | 0, s => some s
  | fuel + 1, s => do
    let rest ← skipComment? (s.dropWhile fun c => isIndent c || c == '\n')
    if rest.length < s.length then skipGap? fuel rest else return rest

/-- Reads a key, an equals sign and a value. -/
def pair (value : ValueReader Value) (s : List Char) : Except Fault ((Key × Value) × List Char) := do
  let (key, rest) ← orMalformed (key? (s.length + 1) s)
  let rest ← orMalformed (char? '=' rest)
  let (v, rest) ← value (skipSpaces rest)
  return ((key, v), rest)

/-- Reads the items of an array up to its closing bracket. -/
def items (value : ValueReader Value) : (fuel : Nat) → ValueReader (List Value)
  | 0, _ => .error .malformed
  | fuel + 1, s => do
    let s ← orMalformed (skipGap? (s.length + 1) s)
    match s with
    | ']' :: rest => return ([], rest)
    | _ =>
      let (v, rest) ← value s
      match ← orMalformed (skipGap? (rest.length + 1) rest) with
      | ']' :: rest => return ([v], rest)
      | ',' :: rest =>
        let (vs, rest) ← items value fuel rest
        return (v :: vs, rest)
      | _ => .error .malformed

/-- Does a value close the key that holds it? -/
def Value.isClosed : Value → Bool
  | .array _ => true
  | .table _ => true
  | _ => false

/-- Reads the entries of an inline table up to its closing brace; `closed` are the keys that may not be extended. -/
def entries (value : ValueReader Value) : (fuel : Nat) → (table : Table) → (closed : List Key) → ValueReader Table
  | 0, _, _, _ => .error .malformed
  | fuel + 1, table, closed, s => do
    let ((key, v), rest) ← pair value s
    if closed.any (·.isPrefixOf key) then .error .malformed
    else
      let table ← orMalformed (table.modify? false (Table.add? (key.getLastD "") v) key.dropLast)
      match skipSpaces rest with
      | '\x7d' :: rest => return (table, rest)
      | ',' :: rest =>
        entries value fuel table (if v.isClosed then key :: closed else closed) (skipSpaces rest)
      | _ => .error .malformed

/-- Reads a value. -/
def value : (fuel : Nat) → ValueReader Value
  | 0, _ => .error .malformed
  | fuel + 1, s =>
    match s with
    | '[' :: rest => (items (value fuel) (rest.length + 1) rest).map fun (vs, rest) => (.array vs, rest)
    | '\x7b' :: rest =>
      match skipSpaces rest with
      | '\x7d' :: rest => .ok (.table [], rest)
      | rest => (entries (value fuel) (rest.length + 1) [] [] rest).map fun (t, rest) => (.table t, rest)
    | _ => scalar s

/-! ## Documents -/

/-- What has been read: the document, the table that is open, the keys that may not be opened as tables (`opened`),
those that will not be from the next table on (`dotted`), and those that may not be extended (`closed`). -/
structure State where
  document : Table := []
  header : Key := []
  opened : List Key := []
  dotted : List Key := []
  closed : List Key := []

namespace State

/-- May the key not be extended? -/
def isClosed (st : State) (key : Key) : Bool := st.closed.any (·.isPrefixOf key)

/-- The state in which the next table may be opened. -/
def endTable (st : State) : State := { st with opened := st.dotted ++ st.opened, dotted := [] }

/-- Opens the table with a key. -/
def openTable? (st : State) (key : Key) : Option State :=
  let st := st.endTable
  if st.opened.contains key || st.isClosed key then none
  else (st.document.modify? true some key).map fun document =>
    { st with document := document, header := key, opened := key :: st.opened }

/-- Opens a new table of an array of tables. All that was known of keys below it concerns the table before. -/
def openItem? (st : State) (key : Key) : Option State :=
  let st := st.endTable
  if st.isClosed key then none
  else (st.document.modify? true (Table.append? (key.getLastD "")) key.dropLast).map fun document =>
    { st with
      document := document, header := key
      opened := key :: st.opened.filter fun k => !key.isPrefixOf k
      closed := st.closed.filter fun k => !key.isPrefixOf k }

/-- Adds a value to the open table. -/
def add? (st : State) (key : Key) (v : Value) : Option State :=
  let between := (List.range key.length).drop 1 |>.map fun n => st.header ++ key.take n
  if between.any st.opened.contains || st.isClosed (st.header ++ key.dropLast) then none
  else (st.document.modify? true (Table.add? (key.getLastD "") v) (st.header ++ key.dropLast)).map fun document =>
    { st with
      document := document, dotted := between ++ st.dotted
      closed := if v.isClosed then (st.header ++ key) :: st.closed else st.closed }

end State

/-- Reads a table header, an array header or a key with its value. -/
def statement (st : State) (s : List Char) : Except Fault (State × List Char) :=
  match s with
  | '[' :: '[' :: rest => do
    let (key, rest) ← orMalformed (key? (rest.length + 1) (skipSpaces rest))
    let st ← orMalformed (st.openItem? key)
    match rest with
    | ']' :: ']' :: rest => return (st, skipSpaces rest)
    | _ => .error .malformed
  | '[' :: rest => do
    let (key, rest) ← orMalformed (key? (rest.length + 1) (skipSpaces rest))
    let st ← orMalformed (st.openTable? key)
    match rest with
    | ']' :: rest => return (st, skipSpaces rest)
    | _ => .error .malformed
  | '#' :: _ => .ok (st, s)
  | _ => do
    let ((key, v), rest) ← pair (value (s.length + 1)) s
    let st ← orMalformed (st.add? key v)
    return (st, skipSpaces rest)

/-- Reads statements up to the end of the text, each on a line of its own. -/
def statements : (fuel : Nat) → State → List Char → Except Fault State
  | 0, _, _ => .error .malformed
  | fuel + 1, st, s =>
    match skipSpaces s with
    | [] => .ok st
    | '\n' :: rest => statements fuel st rest
    | s => do
      let (st, rest) ← statement st s
      match ← orMalformed (skipComment? rest) with
      | [] => return st
      | '\n' :: rest => statements fuel st rest
      | _ => .error .malformed

/-- Line feeds in the place of pairs of carriage return and line feed. -/
def dropReturns : List Char → List Char
  | '\r' :: '\n' :: rest => '\n' :: dropReturns rest
  | c :: rest => c :: dropReturns rest
  | [] => []

/-- The table of a TOML document, or why there is none in the text. -/
def read (text : List Char) : Except Fault Table :=
  let s := dropReturns text
  (statements (s.length + 1) {} s).map State.document

end MarkLint.Toml
