import JobShell.Text.Utf8

/-!
# Paths

A path is any sequence of bytes. One that comes from a flag need not be UTF-8, and
is decoded only to be shown.
-/

namespace JobShell.Unix

set_option autoImplicit false

structure PathName where
  bytes : List UInt8
  deriving DecidableEq, Repr

namespace PathName

def ofText (text : String) : PathName :=
  ⟨text.toUTF8.data.toList⟩

instance : Coe String PathName where
  coe := ofText

@[simp]
theorem of_text_inj {first second : String} : ofText first = ofText second ↔ first = second := by
  constructor
  · intro same
    apply String.toByteArray_inj.mp
    exact ByteArray.ext (Array.toList_inj.mp (congrArg bytes same))
  · exact congrArg ofText

def shown (path : PathName) : String :=
  Text.Utf8.decode path.bytes

def hasNul (path : PathName) : Bool :=
  path.bytes.contains 0

end PathName

end JobShell.Unix
