set_option autoImplicit false

namespace CodeOutline

inductive Entry where
  | directory
  | file (bytes : ByteArray)

-- The entries that were written, the latest first.
structure Folder where
  written : List (String × Entry) := []

namespace Folder

def write (folder : Folder) (name : String) (entry : Entry) : Folder :=
  ⟨(name, entry) :: folder.written⟩

def get? (folder : Folder) (name : String) : Option Entry :=
  folder.written.lookup name

theorem get?_write (folder : Folder) (name other : String) (entry : Entry) :
    (folder.write name entry).get? other = if other = name then some entry else folder.get? other := by
  by_cases same : other = name
  · simp [get?, write, same]
  · have differ : (other == name) = false := by simpa using same
    simp [get?, write, List.lookup_cons, differ, same]

theorem get?_empty (name : String) : ({} : Folder).get? name = none := rfl

end Folder

end CodeOutline
