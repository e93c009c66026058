/-!
# Request targets

The target of a request is a path with an optional query, a full address of which path and query
count, the name of a host alone, or an asterisk. A fragment is dropped. Path and query are kept as
they are written, escapes included.
-/

namespace TaskCluster.Api

/-- Why a text is no target. -/
inductive TargetFault where
  | empty
  | tooLong
  | invalidCharacter
  | invalidAuthority
  | invalidFormat
  | schemeTooLong
deriving DecidableEq, Repr

def TargetFault.message : TargetFault → String
  | .empty => "empty string"
  | .tooLong => "uri too long"
  | .invalidCharacter => "invalid uri character"
  | .invalidAuthority => "invalid authority"
  | .invalidFormat => "invalid format"
  | .schemeTooLong => "scheme too long"

structure Target where
  path : List Char
  query : Option (List Char)
deriving DecidableEq, Repr

namespace Target

/-! ### Characters -/

/-- May a character stand in a path? All beyond ASCII may. -/
def isPathChar (c : Char) : Bool :=
  let n := c.toNat
  n = 0x21 || n = 0x22 || (0x24 ≤ n && n ≤ 0x3b) || n = 0x3d || (0x40 ≤ n && n ≤ 0x5f) ||
    (0x61 ≤ n)

/-- May a character stand in a query? -/
def isQueryChar (c : Char) : Bool :=
  let n := c.toNat
  n = 0x21 || (0x24 ≤ n && n ≤ 0x3b) || n = 0x3d || 0x3f ≤ n

/-- May a character stand in the name of a host, besides those with a meaning of their own? -/
def isHostChar (c : Char) : Bool :=
  c.isAlphanum || (0x26 ≤ c.toNat && c.toNat ≤ 0x2e) || c = '!' || c = '$' || c = ';' || c = '=' ||
    c = '_' || c = '~'

/-- May a character stand in a scheme? -/
def isSchemeChar (c : Char) : Bool := c.isAlphanum || c = '+' || c = '-' || c = '.'

/-! ### Path and query -/

/-- The parts of a target from its path on. -/
def ofPath (cs : List Char) : Except TargetFault Target :=
  let path := cs.takeWhile fun c => c ≠ '?' && c ≠ '#'
  let rest := cs.dropWhile fun c => c ≠ '?' && c ≠ '#'
  if !path.all isPathChar then .error .invalidCharacter
  else
    match rest with
    | '?' :: rest =>
      let query := rest.takeWhile fun c => c ≠ '#'
      if query.all isQueryChar then .ok ⟨path, some query⟩ else .error .invalidCharacter
    | _ => .ok ⟨path, none⟩

/-! ### Hosts -/

/-- What was seen of the name of a host. -/
structure Host where
  colons : Nat := 0
  opened : Bool := false
  closed : Bool := false
  percent : Bool := false
  /-- Was the last character an at sign? -/
  atEnd : Bool := false

/-- Is the name of a host complete as it is? -/
def Host.isComplete (h : Host) : Bool :=
  h.opened == h.closed && h.colons ≤ 1 && !h.atEnd && !h.percent

/-- The most colons that a name can have. -/
def maxColons : Nat := 8

/-- What stands behind the name of a host. -/
def behindHost (h : Host) : List Char → Except TargetFault (List Char)
  | [] => if h.isComplete then .ok [] else .error .invalidAuthority
  | c :: rest =>
    if c = '/' || c = '?' || c = '#' then
      if h.isComplete then .ok (c :: rest) else .error .invalidAuthority
    else if c = ':' then
      if maxColons ≤ h.colons then .error .invalidAuthority
      else behindHost { h with colons := h.colons + 1, atEnd := false } rest
    else if c = '[' then
      if h.percent || h.opened then .error .invalidAuthority
      else behindHost { h with opened := true, atEnd := false } rest
    else if c = ']' then
      if !h.opened || h.closed then .error .invalidAuthority
      else behindHost { h with closed := true, colons := 0, percent := false, atEnd := false } rest
    else if c = '@' then
      behindHost { h with colons := 0, percent := false, atEnd := true } rest
    else if c = '%' then behindHost { h with percent := true, atEnd := false } rest
    else if isHostChar c then behindHost { h with atEnd := false } rest
    else .error .invalidCharacter

/-! ### Targets -/

/-- The longest scheme. -/
def maxScheme : Nat := 64

/-- What stands behind a scheme and two slashes; none if there is no scheme. -/
def behindScheme (cs : List Char) : Except TargetFault (Option (List Char)) :=
  let scheme := cs.takeWhile isSchemeChar
  match cs.dropWhile isSchemeChar with
  | ':' :: '/' :: '/' :: rest =>
    if maxScheme < scheme.length then .error .schemeTooLong else .ok (some rest)
  | _ => .ok none

/-- The target of a full address or of a host alone. -/
def ofAddress (cs : List Char) : Except TargetFault Target := do
  match ← behindScheme cs with
  | none =>
    if (← behindHost {} cs).isEmpty then .ok ⟨[], none⟩ else .error .invalidFormat
  | some address =>
    let rest ← behindHost {} address
    if rest.length = address.length then .error .invalidFormat
    else
      let target ← ofPath rest
      .ok { target with path := if target.path.isEmpty then ['/'] else target.path }

/-- The most bytes of a target. -/
def maxBytes : Nat := 65534

/-- Reads a target. -/
def parse (s : String) : Except TargetFault Target :=
  if maxBytes < s.utf8ByteSize then .error .tooLong
  else
    match s.toList with
    | [] => .error .empty
    | ['*'] => .ok ⟨['*'], none⟩
    | '/' :: cs => ofPath ('/' :: cs)
    | [c] =>
      match behindHost {} [c] with
      | .ok [] => .ok ⟨[], none⟩
      | .ok _ => .error .invalidCharacter
      | .error e => .error e
    | cs => ofAddress cs

end Target

end TaskCluster.Api
