import MigrationDbml.Text.Basic
import MigrationDbml.Json.Basic

/-!
# Parameters

The parameters of a line: values under names, in the order in which the names
first came. Writing a name again replaces its values and leaves it where it was,
so no name occurs twice; the type carries that as `nodup`.

* `Params.get?_insert`: a write is seen under its own name only.
* `Params.names_insert`: the names after a write are those before, and the written
  one at the end if it is new.
-/

namespace MigrationDbml

namespace Params

/-- A name and the values under it. -/
abbrev Entry := Text × List Text

/-- Writes `values` under `name` into a list of entries, with the values that were there. -/
def replaceEntry (name : Text) (values : List Text) : List Entry → Option (List Text) × List Entry
  | [] => (none, [(name, values)])
  | e :: es =>
    if e.1 = name then (some e.2, (name, values) :: es)
    else
      let r := replaceEntry name values es
      (r.1, e :: r.2)

theorem names_replaceEntry (name : Text) (values : List Text) (es : List Entry) :
    (replaceEntry name values es).2.map Prod.fst =
      if name ∈ es.map Prod.fst then es.map Prod.fst else es.map Prod.fst ++ [name] := by
  induction es with
  | nil => simp [replaceEntry]
  | cons e es ih =>
    by_cases h : e.1 = name
    · simp [replaceEntry, h]
    · have h' : ¬ name = e.1 := fun x => h x.symm
      simp only [replaceEntry, h, if_false, List.map_cons, ih, List.mem_cons, h', false_or]
      split <;> simp

theorem lookup_cons (e : Entry) (es : List Entry) (name : Text) :
    List.lookup name (e :: es) = if name = e.1 then some e.2 else es.lookup name := by
  obtain ⟨k, v⟩ := e
  by_cases h : name = k
  · simp [h]
  · have hb : (name == k) = false := beq_eq_false_iff_ne.mpr h
    simp [List.lookup_cons, h, hb]

theorem lookup_replaceEntry (name other : Text) (values : List Text) (es : List Entry) :
    (replaceEntry name values es).2.lookup other =
      if other = name then some values else es.lookup other := by
  induction es with
  | nil => exact lookup_cons (name, values) [] other
  | cons e es ih =>
    rw [lookup_cons]
    by_cases he : e.1 = name
    · simp only [replaceEntry, he, if_true, lookup_cons]
      split <;> rfl
    · simp only [replaceEntry, he, if_false, lookup_cons, ih]
      -- a name cannot be both the written one and the one that stands here
      by_cases ho : other = e.1
      · rw [if_pos ho, if_pos ho, if_neg (fun h => he (ho ▸ h))]
      · rw [if_neg ho, if_neg ho]

theorem nodup_replaceEntry (name : Text) (values : List Text) {es : List Entry}
    (h : (es.map Prod.fst).Nodup) : ((replaceEntry name values es).2.map Prod.fst).Nodup := by
  rw [names_replaceEntry]
  split
  · exact h
  · rename_i hn
    rw [List.nodup_append]
    refine ⟨h, by simp, ?_⟩
    intro a ha b hb
    rw [List.mem_singleton] at hb
    exact fun hab => hn (hb ▸ hab ▸ ha)

end Params

/-- Values under names. No name occurs twice. -/
structure Params where
  entries : List Params.Entry
  nodup : (entries.map Prod.fst).Nodup
deriving DecidableEq

namespace Params

/-- No parameters. -/
def empty : Params := ⟨[], List.nodup_nil⟩

instance : EmptyCollection Params := ⟨empty⟩

instance : Inhabited Params := ⟨empty⟩

/-- The parameters after writing `values` under `name`, with the values replaced, if any. -/
def replace (p : Params) (name : Text) (values : List Text) : Option (List Text) × Params :=
  ((replaceEntry name values p.entries).1,
   ⟨(replaceEntry name values p.entries).2, nodup_replaceEntry name values p.nodup⟩)

/-- The parameters after writing `values` under `name`. -/
def insert (p : Params) (name : Text) (values : List Text) : Params := (p.replace name values).2

/-- All writes of a list, from left to right. -/
def ofList (es : List Entry) : Params := es.foldl (fun p e => p.insert e.1 e.2) empty

/-- The values under a name. -/
def get? (p : Params) (name : Text) : Option (List Text) := p.entries.lookup name

/-- The first value under a name: none when the name is absent or has no values. -/
def first? (p : Params) (name : Text) : Option Text := (p.get? name).bind List.head?

/-- The names, in the order of their first write. -/
def names (p : Params) : List Text := p.entries.map Prod.fst

/-- How many names there are. -/
def size (p : Params) : Nat := p.entries.length

/-- Whether there are no parameters. -/
def isEmpty (p : Params) : Bool := p.entries.isEmpty

/-- A write is seen under its own name only. -/
theorem get?_insert (p : Params) (name other : Text) (values : List Text) :
    (p.insert name values).get? other = if other = name then some values else p.get? other :=
  lookup_replaceEntry name other values p.entries

/-- A write keeps the names in their order and puts a new one at the end. -/
theorem names_insert (p : Params) (name : Text) (values : List Text) :
    (p.insert name values).names = if name ∈ p.names then p.names else p.names ++ [name] :=
  names_replaceEntry name values p.entries

/-- An object with a member for each name, holding the array of its values. -/
def toJson (p : Params) : Json := .obj (p.entries.map fun e => (e.1, .arr (e.2.map .str)))

end Params

end MigrationDbml
