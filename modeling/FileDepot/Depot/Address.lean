/-
Addresses of databases. A configured url is normalised and refused
where it asks for a database in memory in plain words; what is left is
a path, or a `file:` address whose path and parameters are written with
percent signs where they need to be.

Of what an address can ask for, only what decides which database is
opened is told apart: one in memory, or a file that may be created or
must be there. A file that is opened for reading only, without locks or
through another file system is taken for any other file.
-/
import FileDepot.Failure
import FileDepot.Text.Utf8

namespace FileDepot

namespace Address

-- ====================================================== normalisation

/-- What is left behind a start, if the text has it. -/
def after? (start : String) (text : List Char) : Option (List Char) :=
  if start.toList.isPrefixOf text then some (text.drop start.length)
  else none

/-- A text holds another one. -/
def holds (part : List Char) : List Char → Bool
  | [] => part.isEmpty
  | c :: rest => part.isPrefixOf (c :: rest) || holds part rest

/-- The path of a configured url. -/
def ofUrl (url : String) : Except ConfigFault String :=
  let cs := (Text.trim url).toList
  let path :=
    match after? "sqlite://" cs with
    | some rest => rest
    | none => (after? "sqlite:" cs).getD cs
  if path = [] then .error .emptyUrl
  else if path = ":memory:".toList ∨ holds "mode=memory".toList path = true
  then .error .inMemory
  else .ok (String.ofList path)

-- ============================================================ opening

/-- What a path opens: a database of its own in memory, or a file that
may be created or must be there. -/
inductive Target where
  | memory
  | file (path : String) (create : Bool)
  deriving DecidableEq, Repr

/-- The value of a hexadecimal digit. -/
def hex? (c : Char) : Option Nat := Json.hexValue? c

/-- Bytes written with percent signs. An escaped zero byte hides what
follows it. -/
def decodeGo : List Char → List UInt8
  | [] => []
  | '%' :: a :: b :: rest =>
    match hex? a, hex? b with
    | some x, some y =>
      if x = 0 ∧ y = 0 then [] else UInt8.ofNat (x * 16 + y) :: decodeGo rest
    | _, _ => 0x25 :: decodeGo (a :: b :: rest)
  | c :: rest => (String.ofList [c]).toUTF8.toList ++ decodeGo rest

/-- A text written with percent signs. -/
def decoded (cs : List Char) : String := Text.ofBytes (decodeGo cs)

/-- The parameters of an address, between ampersands. -/
def parameters : List Char → List (List Char)
  | cs =>
    match cs.takeWhile (· != '#') with
    | '?' :: query =>
      (query.splitBy fun a b => a != '&' && b != '&').filter (· != ['&'])
    | _ => []

/-- The name and the value of a parameter. -/
def parameter (cs : List Char) : String × String :=
  (decoded (cs.takeWhile (· != '=')),
    decoded ((cs.dropWhile (· != '=')).drop 1))

/-- What a database is to be opened for. -/
inductive Access where
  | read
  | change
  | create
  | memory
  deriving DecidableEq, Repr

namespace Access

/-- The access that a `mode` names. -/
def ofMode? : String → Option Access
  | "ro" => some .read
  | "rw" => some .change
  | "rwc" => some .create
  | "memory" => some .memory
  | _ => none

/-- How much an access allows. -/
def rank : Access → Nat
  | .read => 0
  | .change => 1
  | .create => 2
  | .memory => 3

/-- One access may take the place of another that allows as much. Memory
may take the place of any. -/
def MayReplace (next now : Access) : Prop :=
  next = .memory ∨ next.rank ≤ now.rank

instance (next now : Access) : Decidable (next.MayReplace now) :=
  inferInstanceAs (Decidable (_ ∨ _))

end Access

/-- The file system that keeps its files in memory. -/
def memorySystem : String := "memdb"

/-- The file systems there are. -/
def systems : List String :=
  ["unix", "unix-none", "unix-dotfile", "unix-excl", memorySystem]

/-- What the parameters of an address ask for. -/
structure Request where
  access : Access := .create
  system : String := "unix"
  deriving DecidableEq, Repr

/-- What one parameter makes of a request. The name of a file system is
looked at only when the database is opened. -/
def applyParameter (r : Request) (p : String × String) :
    Except Outage Request :=
  if p.1 = "vfs" then .ok { r with system := p.2 }
  else if p.1 = "mode" then
    match Access.ofMode? p.2 with
    | some access =>
      if access.MayReplace r.access then .ok { r with access }
      else .error .accessDenied
    | none => .error .badAddress
  else if p.1 = "cache" then
    if p.2 = "shared" ∨ p.2 = "private" then .ok r
    else .error .badAddress
  else .ok r

/-- The path of an address without its authority, which can only be
this host. -/
def localPath (cs : List Char) : Except Outage (List Char) :=
  match cs with
  | '/' :: '/' :: rest =>
    let authority := rest.takeWhile (· != '/')
    if authority = [] ∨ authority = "localhost".toList then
      .ok (rest.dropWhile (· != '/'))
    else .error .badAddress
  | cs => .ok cs

/-- The target of a path that is no `file:` address. -/
def plainTarget (path : String) : Target :=
  if path = ":memory:" ∨ path = "" then .memory else .file path true

/-- The target of a path for which a request is made. -/
def Request.target (r : Request) (path : String) : Except Outage Target :=
  if r.system ∉ systems then .error .badAddress
  else if r.access = .memory ∨ r.system = memorySystem then .ok .memory
  else
    match plainTarget path with
    | .memory => .ok .memory
    | .file path _ => .ok (.file path (r.access == .create))

/-- The target of what stands behind `file:`. -/
def addressTarget (cs : List Char) : Except Outage Target := do
  let cs ← localPath cs
  let isEnd := fun c => c == '?' || c == '#'
  let path := decoded (cs.takeWhile fun c => !isEnd c)
  let request ← ((parameters (cs.dropWhile fun c => !isEnd c)).map
    parameter).foldlM applyParameter {}
  request.target path

/-- The bytes before the first zero byte, if there is one. -/
def zeroByte? (cs : List Char) : Option Nat :=
  if cs.any (·.toNat == 0) then
    some (String.ofList (cs.takeWhile (·.toNat != 0))).utf8ByteSize
  else none

/-- The target that a path opens. -/
def target (path : String) : Except Outage Target :=
  let cs :=
    match after? "sqlite://" path.toList with
    | some rest => "file:".toList ++ rest
    | none => path.toList
  match zeroByte? cs with
  | some position => .error (.nulByte position)
  | none =>
    match after? "file:" cs with
    | some rest => addressTarget rest
    | none => .ok (plainTarget path)

end Address

end FileDepot
