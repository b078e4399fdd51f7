import MiniWasm.Wasi.Abi

/-!
# Paths

Relative paths as byte strings: what a guest may pass, and how a path is joined
to the path of the directory it is relative to and taken apart again.
-/

namespace MiniWasm.Wasi

abbrev Path := List UInt8

/-- `b'/'`. -/
def slash : UInt8 := 47

/-- `b'.'`. -/
def dot : UInt8 := 46

inductive GuestPathError where
  | empty
  | tooLong
  | unsafePath
  deriving DecidableEq, Repr

def GuestPathError.errno : GuestPathError → Errno
  | .empty => .inval
  | .tooLong => .nametoolong
  | .unsafePath => .notcapable

def unsafeComponent (component : Path) : Bool :=
  component = [] ∨ component = [dot] ∨ component = [dot, dot]

def validateGuestPath (path : Path) : Except GuestPathError Unit :=
  if path = [] then .error .empty
  else if maxRelativePathBytes < path.length then .error .tooLong
  else if path.head? = some slash ∨ path.getLast? = some slash ∨ 0 ∈ path then
    .error .unsafePath
  else if (path.splitOn slash).any unsafeComponent then .error .unsafePath
  else .ok ()

def joinRelative (base child : Path) : Path :=
  if base = [] then child else base ++ slash :: child

def directoryPrefix (path : Path) : Path :=
  path ++ [slash]

/-- The part before the last separator; empty when there is none. -/
def parentPath (path : Path) : Path :=
  ((path.reverse.dropWhile (· ≠ slash)).drop 1).reverse

def relativeToDirectory (base path : Path) : Option Path :=
  if base = [] then some path
  else if directoryPrefix base <+: path then some (path.drop (base.length + 1))
  else none

def immediateChildName (base path : Path) : Option Path :=
  match relativeToDirectory base path with
  | none => none
  | some remainder => if remainder = [] ∨ slash ∈ remainder then none else some remainder

end MiniWasm.Wasi
