import MigrationDbml.Command.Directory.Basic

/-!
# Files that are replaced

What a file system promises about a file that was written: the content can be read
back, and what is apart from it can be read as before (`FileSystem.Replaces`). A table
keeps this promise for every path. A directory keeps it for each plain name
(`Directory.replaces`), where all paths are apart that do not go through the name.
-/

namespace MigrationDbml.Command

/-- **What writing to a path promises**, with `apart` for the paths that have nothing to do with it. -/
structure FileSystem.Replaces {π σ : Type} (fs : FileSystem σ π) (path : π) (apart : π → Prop) :
    Prop where
  read_written : ∀ {files files' : σ} {content : Bytes},
    fs.write files path content = .ok files' → fs.read files' path = .ok content
  read_apart : ∀ {files files' : σ} {content : Bytes}, fs.write files path content = .ok files' →
    ∀ p, apart p → fs.read files' p = fs.read files p

/-- A table of contents as a file system, in which every path can be written. -/
def FileSystem.table {π : Type} [DecidableEq π] : FileSystem (π → Option Bytes) π where
  read files path :=
    match files path with
    | none => .error (.system 2)
    | some content => .ok content
  write files path content := .ok fun p => if p = path then some content else files p

/-- **A table keeps the promise**, and every other path is apart. -/
theorem FileSystem.table_replaces {π : Type} [DecidableEq π] (path : π) :
    table.Replaces path (· ≠ path) where
  read_written := by
    intro files files' content hwrite
    cases hwrite
    simp only [table, if_pos]
  read_apart := by
    intro files files' content hwrite p hp
    cases hwrite
    simp only [table, if_neg hp]

namespace Directory

/-- Whether a text names a file where it stands: it is one component, and no dots. -/
structure IsPlain (name : Text) : Prop where
  ne_nil : name ≠ []
  ne_dot : name ≠ ['.']
  ne_dots : name ≠ ['.', '.']
  slash_not_mem : '/' ∉ name

variable {d d' : Directory} {name c : Text} {content : Bytes} {f : Folder}

theorem lookup_put (d : Directory) (name : Text) (content : Bytes) :
    (d.put name content).lookup name = some content := by
  induction d with
  | nil => simp [put]
  | cons e d ih =>
    unfold put
    split
    · simp
    · rename_i hne
      rw [List.lookup_cons, beq_false_of_ne (Ne.symm hne)]
      exact ih

theorem lookup_put_of_ne (d : Directory) (content : Bytes) (h : c ≠ name) :
    (d.put name content).lookup c = d.lookup c := by
  induction d with
  | nil => simp [put, List.lookup_cons, beq_false_of_ne h]
  | cons e d ih =>
    unfold put
    split
    · rename_i heq
      have hc : (c == e.1) = false := beq_false_of_ne (heq ▸ h)
      rw [List.lookup_cons, List.lookup_cons, beq_false_of_ne h, hc]
    · rw [List.lookup_cons, List.lookup_cons, ih]

theorem find_put_of_ne (d : Directory) (content : Bytes) (f : Folder) (h : c ≠ name) :
    (d.put name content).find f c = d.find f c := by
  unfold find
  rw [lookup_put_of_ne d content h]

/-- A path that does not go through a name leads to the same place when the file changes. -/
theorem walk_put (d : Directory) (content : Bytes) {cs : List Text} (f : Folder) (h : name ∉ cs) :
    walk (d.put name content) f cs = walk d f cs := by
  induction cs generalizing f with
  | nil => rfl
  | cons c cs ih =>
    rw [List.mem_cons, not_or] at h
    unfold walk
    rw [find_put_of_ne d content f (Ne.symm h.1)]
    simp only [fun g => ih g h.2]

/-- The name that a path leads to is one of its components. -/
theorem mem_of_walk_eq_entry {cs : List Text} {g : Folder} {slash : Bool}
    (h : walk d f cs = .entry g c slash) : c ∈ cs := by
  induction cs generalizing f with
  | nil => cases h
  | cons e cs ih =>
    unfold walk at h
    split at h
    · exact List.mem_cons_of_mem e (ih h)
    · split at h
      · exact List.mem_cons_of_mem e (ih h)
      · split at h
        · cases h
          exact List.mem_cons_self
        · split at h
          · cases h
          · exact List.mem_cons_of_mem e (ih h)
          · cases h

theorem readFile_put_of_not_mem (d : Directory) (content : Bytes) {path : Text}
    (h : name ∉ path.splitOn '/') : (d.put name content).readFile path = d.readFile path := by
  have hresolve : (d.put name content).resolve path = d.resolve path := by
    unfold resolve
    rw [walk_put d content _ h]
  unfold readFile
  rw [hresolve]
  cases hplace : d.resolve path with
  | folder => rfl
  | nowhere n => rfl
  | entry g c slash =>
    have hc : c ∈ path.splitOn '/' := by
      unfold resolve at hplace
      split at hplace
      · cases hplace
      · split at hplace
        · cases hplace
        · exact mem_of_walk_eq_entry hplace
    have hne : c ≠ name := fun e => h (e ▸ hc)
    simp only [find_put_of_ne d content g hne]

/-- A plain name leads to the file of that name, when it is not too long for a path. -/
theorem resolve_of_isPlain (d : Directory) (h : IsPlain name) :
    d.resolve name = if pathLimit ≤ Text.byteLength name then .nowhere 36
      else .entry .inside name false := by
  have hhead : name.head? ≠ some '/' := fun e => h.slash_not_mem (List.mem_of_mem_head? e)
  have hcut : name.splitOn '/' = [name] := List.splitOn_eq_singleton h.slash_not_mem
  unfold resolve
  rw [if_neg h.ne_nil, if_neg hhead, hcut]
  simp [walk, h.ne_nil, h.ne_dot, h.ne_dots]

/-- A plain name stands for a file, if for anything. -/
theorem device?_of_isPlain (d : Directory) (h : IsPlain name) : d.device? name = none := by
  have hfind : ∀ v, d.find .inside name ≠ .ok (.device v) := by
    intro v hv
    unfold find at hv
    split at hv
    · cases hv
    · cases hlookup : d.lookup name with
      | none => simp only [hlookup] at hv; cases hv
      | some content => simp only [hlookup] at hv; cases hv
  unfold device?
  rw [resolve_of_isPlain d h]
  split
  · rename_i f c hentry
    split at hentry
    · cases hentry
    · cases hentry
      split
      · rename_i v hv
        exact absurd hv (hfind v)
      · rfl
  · rfl

/-- A name that is not too long can be stored in the directory, whether it is there or not. -/
theorem store_inside (d : Directory) (name : Text) (content : Bytes) :
    d.store .inside name content =
      if nameLimit < Text.byteLength name then .error 36 else .ok (d.put name content) := by
  unfold store find
  by_cases hname : nameLimit < Text.byteLength name
  · simp only [if_pos hname]
  · simp only [if_neg hname]
    cases d.lookup name with
    | none => rfl
    | some old => rfl

/-- Writing to a plain name puts the file in the directory. -/
theorem eq_put_of_writeFile (h : IsPlain name) (hwrite : d.writeFile name content = .ok d') :
    d' = d.put name content ∧ Text.byteLength name < pathLimit ∧
      Text.byteLength name ≤ nameLimit := by
  unfold writeFile at hwrite
  rw [resolve_of_isPlain d h] at hwrite
  by_cases hpath : pathLimit ≤ Text.byteLength name
  · rw [if_pos hpath] at hwrite
    cases hwrite
  rw [if_neg hpath] at hwrite
  simp only [store_inside] at hwrite
  by_cases hname : nameLimit < Text.byteLength name
  · rw [if_pos hname] at hwrite
    cases hwrite
  · rw [if_neg hname] at hwrite
    cases hwrite
    exact ⟨rfl, Nat.lt_of_not_le hpath, Nat.le_of_not_lt hname⟩

theorem readFile_put (h : IsPlain name) (hpath : Text.byteLength name < pathLimit)
    (hname : Text.byteLength name ≤ nameLimit) (d : Directory) (content : Bytes) :
    (d.put name content).readFile name = .ok content := by
  have hfind : (d.put name content).find .inside name = .ok (.file content) := by
    unfold find
    rw [if_neg (Nat.not_lt_of_le hname)]
    simp only [lookup_put]
  unfold readFile
  rw [resolve_of_isPlain _ h, if_neg (Nat.not_le_of_lt hpath)]
  simp only [hfind]
  rfl

/-- **A directory keeps the promise** for every plain name: the file is replaced, and paths that
do not go through the name are read as before. -/
theorem replaces (h : IsPlain name) :
    fileSystem.Replaces name fun p => name ∉ p.splitOn '/' where
  read_written := by
    intro d d' content hwrite
    obtain ⟨rfl, hpath, hname⟩ := eq_put_of_writeFile h hwrite
    exact readFile_put h hpath hname d content
  read_apart := by
    intro d d' content hwrite p hp
    obtain ⟨rfl, -, -⟩ := eq_put_of_writeFile h hwrite
    exact readFile_put_of_not_mem d content hp

end Directory

end MigrationDbml.Command
