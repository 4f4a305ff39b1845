/-
  Files in folders.

  A disk is a tree of folders and files. A path is followed name by name, from the root if it begins
  with a slash and otherwise from the folder that the process works in. It leads to a folder, or to a
  name in a folder, under which a file, another folder or nothing may stand.

  * `Node.at?`, `Node.put`: what stands at a place, and the tree with a file put there.
  * `Disk.kind?`: the disk as a map from places to files and folders.
  * `Disk.follow`, `Disk.locate`: where a path leads.
  * `Disk.read`, `Disk.write`: access by path, or the fault that prevents it.
-/
namespace IsaTable

/-- Why a file cannot be read or written. -/
inductive FileFault where
  | notFound
  | notFolder
  | isFolder
  | nameTooLong
  | nulInPath
  | notText
  | other (text : String)
deriving DecidableEq

/-- The fault in the words of the system. -/
def FileFault.message : FileFault → String
  | notFound => "No such file or directory (os error 2)"
  | notFolder => "Not a directory (os error 20)"
  | isFolder => "Is a directory (os error 21)"
  | nameTooLong => "File name too long (os error 36)"
  | nulInPath => "file name contained an unexpected NUL byte"
  | notText => "stream did not contain valid UTF-8"
  | other text => text

/-- A file with its content, or a folder with its entries by name. -/
inductive Node where
  | file (content : ByteArray)
  | folder (entries : List (String × Node))

/-- What a node is by itself: a file with its content, or a folder. -/
inductive Kind where
  | file (content : ByteArray)
  | folder

/-- Files need not be compared to know a folder. -/
instance (kind? : Option Kind) : Decidable (kind? = some .folder) :=
  match kind? with
  | none => isFalse nofun
  | some (.file _) => isFalse nofun
  | some .folder => isTrue rfl

/-- A place in a tree: the names on the way from the root. -/
abbrev Place := List String

namespace Node

def kind : Node → Kind
  | file content => .file content
  | folder _ => .folder

/-- What stands at a place. -/
def at? : Node → Place → Option Node
  | node, [] => some node
  | file _, _ :: _ => none
  | folder entries, name :: rest => (entries.lookup name).bind (at? · rest)

def kind? (t : Node) (place : Place) : Option Kind :=
  (t.at? place).map kind

/-- Entries with another node under a name, whether there was one or not. -/
def setEntry (name : String) (node : Node) (entries : List (String × Node)) : List (String × Node) :=
  (name, node) :: entries.filter (·.1 ≠ name)

/-- The tree with a file at a place, which is to be in a folder. -/
def put (content : ByteArray) : Node → Place → Node
  | _, [] => file content
  | file other, _ :: _ => file other
  | folder entries, name :: rest =>
    folder (setEntry name (put content ((entries.lookup name).getD (folder [])) rest) entries)

theorem lookup_setEntry (name other : String) (node : Node) (entries : List (String × Node)) :
    (setEntry name node entries).lookup other =
      if other = name then some node else entries.lookup other := by
  by_cases h : other = name
  · subst h
    simp [setEntry]
  rw [if_neg h, setEntry, List.lookup_cons, beq_false_of_ne h]
  show (entries.filter (·.1 ≠ name)).lookup other = entries.lookup other
  induction entries with
  | nil => rfl
  | cons entry entries ih =>
    obtain ⟨key, old⟩ := entry
    by_cases hkey : key = name
    · subst hkey
      rw [List.filter_cons_of_neg (by simp), ih, List.lookup_cons, beq_false_of_ne h]
    · rw [List.filter_cons_of_pos (by simpa using hkey), List.lookup_cons, List.lookup_cons, ih]

@[simp] theorem kind?_nil (t : Node) : t.kind? [] = some t.kind := by
  cases t <;> rfl

@[simp] theorem kind?_file_cons (content : ByteArray) (name : String) (rest : Place) :
    (file content).kind? (name :: rest) = none := rfl

theorem kind?_folder_cons (entries : List (String × Node)) (name : String) (rest : Place) :
    (folder entries).kind? (name :: rest) = (entries.lookup name).bind (kind? · rest) := by
  rw [kind?, at?]
  cases entries.lookup name <;> rfl

theorem kind?_put_folder_cons (content : ByteArray) (entries : List (String × Node)) (name other : String)
    (rest below : Place) :
    ((folder entries).put content (name :: rest)).kind? (other :: below) =
      if other = name then (put content ((entries.lookup name).getD (folder [])) rest).kind? below
      else (folder entries).kind? (other :: below) := by
  rw [put, kind?_folder_cons, kind?_folder_cons, lookup_setEntry]
  split <;> rfl

/-- A folder stays one if a file is put where no folder stands. -/
theorem kind?_put_of_folder {t : Node} {place other : Place} (content : ByteArray)
    (hfree : t.kind? place ≠ some .folder) (hother : t.kind? other = some .folder) :
    (t.put content place).kind? other = some .folder := by
  induction place generalizing t other with
  | nil =>
    cases t with
    | folder entries => exact absurd (kind?_nil _) hfree
    | file old => cases other <;> cases hother
  | cons name rest ih =>
    cases t with
    | file old => exact hother
    | folder entries =>
      cases other with
      | nil => rfl
      | cons first below =>
        rw [kind?_put_folder_cons]
        split
        · next hname =>
          subst hname
          rw [kind?_folder_cons] at hfree hother
          obtain ⟨child, hchild, hbelow⟩ := Option.bind_eq_some_iff.1 hother
          rw [hchild] at hfree ⊢
          exact ih hfree hbelow
        · exact hother

end Node

/-- A tree of folders and files, with a process that works in one of its folders. -/
structure Disk where
  root : Node
  /-- The folder that the process works in. -/
  working : Place
  kind?_working : root.kind? working = some .folder

/-- What a path leads to: a folder, or a name in a folder, asked for as a folder if a slash follows
    it. -/
inductive Lead where
  | folder (place : Place)
  | entry (folder : Place) (name : String) (slash : Bool)
deriving DecidableEq

/-- The folder itself, or the folder that the name is in. -/
def Lead.base : Lead → Place
  | folder place => place
  | entry base _ _ => base

namespace Disk

/-- What stands at a place. -/
def kind? (d : Disk) (place : Place) : Option Kind :=
  d.root.kind? place

/-- A disk with one folder in its root, in which the process works and which holds some files. -/
def ofFiles (files : List (String × ByteArray)) : Disk where
  root := .folder [("work", .folder (files.map fun file => (file.1, .file file.2)))]
  working := ["work"]
  kind?_working := rfl

/-- Puts a file where no folder stands. -/
def put (d : Disk) (content : ByteArray) (place : Place) (h : d.kind? place ≠ some .folder) : Disk where
  root := d.root.put content place
  working := d.working
  kind?_working := Node.kind?_put_of_folder content h d.kind?_working

/-- The names that a path is made of. -/
def segments (path : String) : List String :=
  ((path.toList.splitOn '/').map String.ofList).filter (· ≠ "")

/-- Whether a name is longer than any file's. -/
def isOverlong (name : String) : Bool :=
  255 < name.utf8ByteSize

/-- What stands under a name in a folder. -/
def find (d : Disk) (folder : Place) (name : String) : Except FileFault Kind :=
  if isOverlong name then .error .nameTooLong
  else
    match d.kind? (folder ++ [name]) with
    | none => .error .notFound
    | some kind => .ok kind

/-- What names lead to from a folder. `.` stays there and `..` goes to the folder above it, if there is
    one. Another name that is not the last one has to be that of a folder. -/
def follow (d : Disk) (slash : Bool) : Place → List String → Except FileFault Lead
  | here, [] => .ok (.folder here)
  | here, name :: rest =>
    if name = "." then d.follow slash here rest
    else if name = ".." then d.follow slash here.dropLast rest
    else if rest = [] then .ok (.entry here name slash)
    else
      match d.find here name with
      | .error fault => .error fault
      | .ok (.file _) => .error .notFolder
      | .ok .folder => d.follow slash (here ++ [name]) rest

/-- The folder that a path begins in. -/
def start (d : Disk) (path : String) : Place :=
  if path.toList.head? = some '/' then [] else d.working

/-- What a path leads to. -/
def locate (d : Disk) (path : String) : Except FileFault Lead :=
  if '\x00' ∈ path.toList then .error .nulInPath
  else if path = "" then .error .notFound
  else if 4096 ≤ path.utf8ByteSize then .error .nameTooLong
  else d.follow (path.toList.getLast? = some '/') (d.start path) (segments path)

/-- The content of the file that a path leads to. -/
def read (d : Disk) (path : String) : Except FileFault ByteArray :=
  match d.locate path with
  | .error fault => .error fault
  | .ok (.folder _) => .error .isFolder
  | .ok (.entry folder name slash) =>
    match d.find folder name with
    | .error fault => .error fault
    | .ok .folder => .error .isFolder
    | .ok (.file content) => if slash then .error .notFolder else .ok content

/-- The disk after the file that a path leads to was given a content, whether it was there or not. -/
def write (d : Disk) (path : String) (content : ByteArray) : Except FileFault Disk :=
  match d.locate path with
  | .error fault => .error fault
  | .ok (.folder _) => .error .isFolder
  | .ok (.entry folder name slash) =>
    if slash then .error .isFolder
    else if isOverlong name then .error .nameTooLong
    else if h : d.kind? (folder ++ [name]) = some .folder then .error .isFolder
    else .ok (d.put content (folder ++ [name]) h)

end Disk

end IsaTable
