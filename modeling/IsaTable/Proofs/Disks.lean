/-
  What a write does to a disk.

  A path is followed through folders only, and a write makes and removes none. So paths lead where they
  led before, and the file at the place that the written path leads to is the only one to change.

  * `Node.kind?_put`: a file that is put into a folder changes nothing elsewhere.
  * `Disk.kind?_base_of_locate`: paths lead to folders, and to names in folders.
  * `Disk.locate_eq_ok_iff_of_folders`: on disks with the same folders they lead to the same.
  * `Disk.Leads`: the place of a file that a path leads to, whichever way.
  * `Disk.read_eq_ok_iff`, `Disk.write_eq_ok_iff`: which paths can be read and written.
  * `Disk.Saved`, `Disk.saved_of_write`: after a write, one file has the content and all others are as they
    were, by place and by path.
-/
import IsaTable.Command.Disk

namespace IsaTable

/-! ## Trees -/

namespace Node

variable {t : Node}

theorem at?_append (t : Node) (place below : Place) :
    t.at? (place ++ below) = (t.at? place).bind (at? · below) := by
  induction place generalizing t with
  | nil => cases t <;> rfl
  | cons name rest ih =>
    cases t with
    | file content => rfl
    | folder entries =>
      rw [List.cons_append, at?, at?]
      cases entries.lookup name with
      | none => rfl
      | some child => exact ih child

/-- Where something stands below, there is a folder. -/
theorem kind?_of_append {place below : Place} {kind : Kind} (hbelow : below ≠ [])
    (h : t.kind? (place ++ below) = some kind) : t.kind? place = some .folder := by
  rw [kind?, at?_append] at h
  rw [kind?]
  cases hnode : t.at? place with
  | none =>
    rw [hnode] at h
    cases h
  | some node =>
    rw [hnode] at h
    cases node with
    | folder entries => rfl
    | file content =>
      cases below with
      | nil => exact absurd rfl hbelow
      | cons name rest => cases h

theorem kind?_dropLast {place : Place} (h : t.kind? place = some .folder) :
    t.kind? place.dropLast = some .folder := by
  rcases List.eq_nil_or_concat place with rfl | ⟨above, name, rfl⟩
  · exact h
  · rw [List.concat_eq_append] at h ⊢
    rw [List.dropLast_concat]
    exact kind?_of_append (List.cons_ne_nil _ _) h

/-- **A file that is put into a folder, where no folder stands, changes nothing elsewhere.** -/
theorem kind?_put {folder : Place} {name : String} (content : ByteArray)
    (hfolder : t.kind? folder = some .folder) (hfree : t.kind? (folder ++ [name]) ≠ some .folder)
    (other : Place) :
    (t.put content (folder ++ [name])).kind? other =
      if other = folder ++ [name] then some (.file content) else t.kind? other := by
  induction folder generalizing t other with
  | nil =>
    cases t with
    | file old => cases hfolder
    | folder entries =>
      cases other with
      | nil => rfl
      | cons first below =>
        rw [List.nil_append] at hfree ⊢
        rw [kind?_put_folder_cons, put]
        split
        · next hname =>
          subst hname
          cases below with
          | nil => rw [if_pos rfl, kind?_nil, kind]
          | cons second below =>
            -- below a file there is nothing, and neither was there before
            rw [kind?_file_cons, if_neg (by simp)]
            cases hbelow : (folder entries).kind? (first :: second :: below) with
            | none => rfl
            | some old =>
              have happend : (folder entries).kind? ([first] ++ second :: below) = some old := hbelow
              exact absurd (kind?_of_append (List.cons_ne_nil _ _) happend) hfree
        · next hname => rw [if_neg (by simp [hname])]
  | cons first folder ih =>
    cases t with
    | file old => cases hfolder
    | folder entries =>
      rw [kind?_folder_cons] at hfolder
      obtain ⟨child, hchild, hchildFolder⟩ := Option.bind_eq_some_iff.1 hfolder
      rw [List.cons_append, kind?_folder_cons, hchild] at hfree
      cases other with
      | nil => rfl
      | cons second below =>
        rw [List.cons_append, kind?_put_folder_cons, hchild]
        split
        · next hname =>
          subst hname
          rw [kind?_folder_cons, hchild]
          simpa using ih hchildFolder hfree below
        · next hname => rw [if_neg (by simp [hname])]

end Node

namespace Disk

variable {d d' : Disk} {path : String} {place : Place} {content : ByteArray}

/-! ## Where paths lead -/

section
variable {slash : Bool} {here folder : Place} {name : String} {rest names : List String} {lead : Lead}

theorem find_eq_ok_iff {kind : Kind} :
    d.find folder name = .ok kind ↔
      isOverlong name = false ∧ d.kind? (folder ++ [name]) = some kind := by
  rw [find]
  split
  · next hlong => simp [hlong]
  · next hlong =>
    rw [Bool.not_eq_true] at hlong
    cases d.kind? (folder ++ [name]) <;> simp [hlong]

/-- A name on the way has to be that of a folder. -/
theorem follow_cons_eq_ok_iff (hdot : name ≠ ".") (hup : name ≠ "..") (hrest : rest ≠ []) :
    d.follow slash here (name :: rest) = .ok lead ↔
      d.find here name = .ok .folder ∧ d.follow slash (here ++ [name]) rest = .ok lead := by
  rw [follow, if_neg hdot, if_neg hup, if_neg hrest]
  split
  · next hfind => simp [hfind]
  · next hfind => simp [hfind]
  · next hfind => simp [hfind]

/-- Names lead from a folder to a folder, or to a name in a folder. -/
theorem kind?_base_of_follow (hhere : d.kind? here = some .folder)
    (h : d.follow slash here names = .ok lead) : d.kind? lead.base = some .folder := by
  induction names generalizing here with
  | nil =>
    cases h
    exact hhere
  | cons name rest ih =>
    by_cases hdot : name = "."
    · rw [follow, if_pos hdot] at h
      exact ih hhere h
    by_cases hup : name = ".."
    · rw [follow, if_neg hdot, if_pos hup] at h
      exact ih (Node.kind?_dropLast hhere) h
    by_cases hrest : rest = []
    · rw [follow, if_neg hdot, if_neg hup, if_pos hrest] at h
      cases h
      exact hhere
    · obtain ⟨hfind, h⟩ := (follow_cons_eq_ok_iff hdot hup hrest).1 h
      exact ih (find_eq_ok_iff.1 hfind).2 h

/-- On disks with the same folders, names lead to the same. -/
theorem follow_eq_ok_iff_of_folders
    (hsame : ∀ place, d'.kind? place = some .folder ↔ d.kind? place = some .folder) :
    d'.follow slash here names = .ok lead ↔ d.follow slash here names = .ok lead := by
  induction names generalizing here with
  | nil => rfl
  | cons name rest ih =>
    by_cases hdot : name = "."
    · rw [follow, follow, if_pos hdot, if_pos hdot, ih]
    by_cases hup : name = ".."
    · rw [follow, follow, if_neg hdot, if_neg hdot, if_pos hup, if_pos hup, ih]
    by_cases hrest : rest = []
    · rw [follow, follow, if_neg hdot, if_neg hdot, if_neg hup, if_neg hup, if_pos hrest, if_pos hrest]
    · rw [follow_cons_eq_ok_iff hdot hup hrest, follow_cons_eq_ok_iff hdot hup hrest, find_eq_ok_iff,
        find_eq_ok_iff, hsame, ih]

theorem locate_eq_ok_iff :
    d.locate path = .ok lead ↔ '\x00' ∉ path.toList ∧ path ≠ "" ∧ path.utf8ByteSize < 4096 ∧
      d.follow (path.toList.getLast? = some '/') (d.start path) (segments path) = .ok lead := by
  rw [locate]
  split
  · next hnul => simp [hnul]
  next hnul =>
  split
  · next hempty => simp [hempty]
  next hempty =>
  split
  · next hlong => simp [Nat.not_lt.2 hlong]
  · next hlong => simp [hnul, hempty, Nat.lt_of_not_le hlong]

/-- A path begins in a folder. -/
theorem kind?_start (d : Disk) (path : String) : d.kind? (d.start path) = some .folder := by
  have hworking : d.kind? d.working = some .folder := d.kind?_working
  rw [start]
  split
  · by_cases hroot : d.working = []
    · rwa [hroot] at hworking
    · exact Node.kind?_of_append hroot hworking
  · exact hworking

/-- **Paths lead to folders, and to names in folders.** -/
theorem kind?_base_of_locate (h : d.locate path = .ok lead) : d.kind? lead.base = some .folder :=
  kind?_base_of_follow (d.kind?_start path) (locate_eq_ok_iff.1 h).2.2.2

theorem locate_eq_ok_iff_of_folders (hworking : d'.working = d.working)
    (hsame : ∀ place, d'.kind? place = some .folder ↔ d.kind? place = some .folder) :
    d'.locate path = .ok lead ↔ d.locate path = .ok lead := by
  have hstart : d'.start path = d.start path := by rw [start, start, hworking]
  rw [locate_eq_ok_iff, locate_eq_ok_iff, hstart, follow_eq_ok_iff_of_folders hsame]

end

/-! ## Reading and writing -/

/-- A path leads to a file at a place, or to where one can be. -/
def Leads (d : Disk) (path : String) (place : Place) : Prop :=
  ∃ folder name, d.locate path = .ok (.entry folder name false) ∧ isOverlong name = false ∧
    place = folder ++ [name]

/-- A path leads to one place at most. -/
theorem Leads.unique {other : Place} (h : d.Leads path place) (h' : d.Leads path other) :
    place = other := by
  obtain ⟨folder, name, hlocate, -, rfl⟩ := h
  obtain ⟨folder', name', hlocate', -, rfl⟩ := h'
  rw [hlocate] at hlocate'
  cases hlocate'
  rfl

/-- **A path can be read** just when it leads to a file. -/
theorem read_eq_ok_iff :
    d.read path = .ok content ↔ ∃ place, d.Leads path place ∧ d.kind? place = some (.file content) := by
  rw [read]
  constructor
  · intro h
    split at h
    · cases h
    · cases h
    next folder name slash hlocate =>
    split at h
    · cases h
    · cases h
    next found hfind =>
    cases slash with
    | true => cases h
    | false =>
      cases h
      obtain ⟨hlong, hkind⟩ := find_eq_ok_iff.1 hfind
      exact ⟨_, ⟨folder, name, hlocate, hlong, rfl⟩, hkind⟩
  · rintro ⟨_, ⟨folder, name, hlocate, hlong, rfl⟩, hkind⟩
    simp only [hlocate, find_eq_ok_iff.2 ⟨hlong, hkind⟩]
    rfl

/-- **A path can be written** just when it leads to a place without a folder, and then there is a file at
    that place. -/
theorem write_eq_ok_iff :
    d.write path content = .ok d' ↔
      ∃ place, d.Leads path place ∧ ∃ h : d.kind? place ≠ some .folder, d' = d.put content place h := by
  rw [write]
  constructor
  · intro h
    split at h
    · cases h
    · cases h
    next folder name slash hlocate =>
    cases slash with
    | true => cases h
    | false =>
      cases hlong : isOverlong name with
      | true =>
        rw [hlong] at h
        cases h
      | false =>
        rw [hlong] at h
        simp only [Bool.false_eq_true, if_false] at h
        split at h
        · cases h
        · next hfree =>
          cases h
          exact ⟨_, ⟨folder, name, hlocate, hlong, rfl⟩, hfree, rfl⟩
  · rintro ⟨_, ⟨folder, name, hlocate, hlong, rfl⟩, hfree, rfl⟩
    simp only [hlocate, hlong, Bool.false_eq_true, if_false, dif_neg hfree]

/-- Where a path leads to, a file can be put. -/
theorem kind?_put (h : d.Leads path place) (hfree : d.kind? place ≠ some .folder) (other : Place) :
    (d.put content place hfree).kind? other =
      if other = place then some (.file content) else d.kind? other := by
  obtain ⟨folder, name, hlocate, -, rfl⟩ := h
  exact Node.kind?_put content (kind?_base_of_locate hlocate) hfree other

theorem kind?_put_eq_folder_iff (h : d.Leads path place) (hfree : d.kind? place ≠ some .folder)
    (other : Place) :
    (d.put content place hfree).kind? other = some .folder ↔ d.kind? other = some .folder := by
  rw [kind?_put h hfree]
  split
  · next hother =>
    subst hother
    simp [hfree]
  · rfl

theorem leads_put_iff (h : d.Leads path place) (hfree : d.kind? place ≠ some .folder) {other : String}
    {there : Place} : (d.put content place hfree).Leads other there ↔ d.Leads other there := by
  have hlocate (lead : Lead) :
      (d.put content place hfree).locate other = .ok lead ↔ d.locate other = .ok lead :=
    locate_eq_ok_iff_of_folders rfl (kind?_put_eq_folder_iff h hfree)
  simp only [Leads, hlocate]

/-- One file is saved: it has the content at its place, and under all paths that lead there. The disk is
    as it was at all other places, and under all paths that do not lead there. -/
structure Saved (d : Disk) (place : Place) (content : ByteArray) (d' : Disk) : Prop where
  working : d'.working = d.working
  kind? : d'.kind? place = some (.file content)
  read : ∀ path, d.Leads path place → d'.read path = .ok content
  kind?_of_ne : ∀ other, other ≠ place → d'.kind? other = d.kind? other
  read_of_not_leads : ∀ path, ¬ d.Leads path place →
    ∀ old, d'.read path = .ok old ↔ d.read path = .ok old

/-- **A write saves one file**, at the place that the path leads to. -/
theorem saved_of_write (h : d.write path content = .ok d') :
    ∃ place, d.Leads path place ∧ d.Saved place content d' := by
  obtain ⟨place, hleads, hfree, rfl⟩ := write_eq_ok_iff.1 h
  refine ⟨place, hleads, rfl, ?_, fun other hother => ?_, fun other hother => ?_, fun other hother old => ?_⟩
  · rw [kind?_put hleads, if_pos rfl]
  · refine read_eq_ok_iff.2 ⟨place, (leads_put_iff hleads hfree).2 hother, ?_⟩
    rw [kind?_put hleads, if_pos rfl]
  · rw [kind?_put hleads, if_neg hother]
  · rw [read_eq_ok_iff, read_eq_ok_iff]
    refine exists_congr fun there => ?_
    rw [leads_put_iff hleads hfree]
    refine and_congr_right fun hthere => ?_
    have hne : there ≠ place := by
      rintro rfl
      exact hother hthere
    rw [kind?_put hleads, if_neg hne]

end Disk

end IsaTable
