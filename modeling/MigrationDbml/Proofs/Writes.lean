import Mathlib.Data.Finset.Card
import MigrationDbml.Params

/-!
# Sequences of writes

What parameters hold after any sequence of writes, in terms of the writes alone
(`Records`): the names in the order of their first write, and under each name the
values of its last write. One write more keeps that (`Records.insert`), so it holds
after every sequence (`records_ofList`), and of nothing else (`Records.unique`).

A write hands back the values that it replaced (`replaced`). They are what stood under
the name before it (`replace_fst`), so they say nothing that a look-up would not say.
-/

namespace MigrationDbml.Params

variable {p : Params} {es : List Entry}

/-- **What is held after writes.** Names are in the order of their first write, and the last
write of a name is the first one of that name from behind. -/
structure Records (p : Params) (es : List Entry) : Prop where
  mem_names_iff : ∀ name, name ∈ p.names ↔ name ∈ es.map Prod.fst
  in_order : p.names.Pairwise fun a b => (es.map Prod.fst).idxOf a < (es.map Prod.fst).idxOf b
  get?_eq : ∀ name, p.get? name = es.reverse.lookup name

namespace Records

theorem names_nodup (h : p.Records es) : p.names.Nodup := by
  refine h.in_order.imp ?_
  rintro a b hlt rfl
  exact Nat.lt_irrefl _ hlt

theorem size_eq (h : p.Records es) : p.size = (es.map Prod.fst).toFinset.card := by
  have hsame : p.names.toFinset = (es.map Prod.fst).toFinset := by
    ext name
    rw [List.mem_toFinset, List.mem_toFinset, h.mem_names_iff]
  have hlength : p.size = p.names.length := (List.length_map Prod.fst).symm
  rw [hlength, ← hsame, List.toFinset_card_of_nodup h.names_nodup]

/-- The place of a written name does not change when more is written. -/
theorem idxOf_append (h : p.Records es) {name : Text} (hname : name ∈ p.names) (fs : List Text) :
    (es.map Prod.fst ++ fs).idxOf name = (es.map Prod.fst).idxOf name :=
  List.idxOf_append_of_mem ((h.mem_names_iff name).1 hname)

theorem pairwise_append (h : p.Records es) (fs : List Text) : p.names.Pairwise fun a b =>
    (es.map Prod.fst ++ fs).idxOf a < (es.map Prod.fst ++ fs).idxOf b := by
  refine h.in_order.imp_of_mem ?_
  intro a b ha hb hlt
  rw [h.idxOf_append ha, h.idxOf_append hb]
  exact hlt

/-- **One write more.** A new name comes behind all others, and an old one stays where it is. -/
theorem insert (h : p.Records es) (e : Entry) : (p.insert e.1 e.2).Records (es ++ [e]) := by
  refine ⟨?_, ?_, ?_⟩
  · intro name
    rw [names_insert, List.map_append, List.map_singleton, List.mem_append, List.mem_singleton,
      ← h.mem_names_iff]
    split
    · rename_i hold
      constructor
      · exact Or.inl
      · rintro (hname | rfl)
        · exact hname
        · exact hold
    · rw [List.mem_append, List.mem_singleton]
  · rw [names_insert, List.map_append, List.map_singleton]
    split
    · exact h.pairwise_append [e.1]
    · rename_i hnew
      have hfresh : e.1 ∉ es.map Prod.fst := fun hmem => hnew ((h.mem_names_iff e.1).2 hmem)
      refine List.pairwise_append.2 ⟨h.pairwise_append [e.1], List.pairwise_singleton _ _, ?_⟩
      intro a ha b hb
      rw [List.mem_singleton.1 hb, h.idxOf_append ha, List.idxOf_append_of_notMem hfresh]
      have hlt := List.idxOf_lt_length_of_mem ((h.mem_names_iff a).1 ha)
      omega
  · intro name
    rw [get?_insert, h.get?_eq, List.reverse_append, List.reverse_singleton, List.singleton_append,
      lookup_cons]

end Records

theorem records_empty : (∅ : Params).Records [] :=
  ⟨fun _ => Iff.rfl, List.Pairwise.nil, fun _ => rfl⟩

theorem ofList_append_singleton (es : List Entry) (e : Entry) :
    ofList (es ++ [e]) = (ofList es).insert e.1 e.2 :=
  List.foldl_concat _ _ _ _

/-- **What a sequence of writes leaves behind.** -/
theorem records_ofList (es : List Entry) : (ofList es).Records es := by
  induction es using List.reverseRecOn with
  | nil => exact records_empty
  | append_singleton es e ih =>
    rw [ofList_append_singleton]
    exact ih.insert e

/-- What stands in an order of names is found under them. -/
theorem map_lookup_eq {es : List Entry} (h : (es.map Prod.fst).Nodup) :
    (es.map Prod.fst).map (fun name => (name, (es.lookup name).getD [])) = es := by
  induction es with
  | nil => rfl
  | cons e es ih =>
    rw [List.map_cons, List.nodup_cons] at h
    have hlater : ∀ name ∈ es.map Prod.fst,
        (name, (List.lookup name (e :: es)).getD []) = (name, (es.lookup name).getD []) := by
      intro name hname
      rw [lookup_cons, if_neg]
      rintro rfl
      exact h.1 hname
    rw [List.map_cons, List.map_cons, List.map_congr_left hlater, ih h.2, lookup_cons, if_pos rfl]
    rfl

/-- **Writes leave only one thing behind.** -/
theorem Records.unique {q : Params} (h : p.Records es) (h' : q.Records es) : p = q := by
  have hperm : p.names.Perm q.names := by
    rw [List.perm_ext_iff_of_nodup h.names_nodup h'.names_nodup]
    intro name
    rw [h.mem_names_iff, h'.mem_names_iff]
  have hnames : p.names = q.names :=
    hperm.eq_of_pairwise (fun a b _ _ hab hba => absurd hab (Nat.lt_asymm hba)) h.in_order h'.in_order
  have hentries : p.entries = q.entries := by
    rw [← map_lookup_eq p.nodup, ← map_lookup_eq q.nodup]
    refine (congrArg _ hnames).trans (List.map_congr_left fun name _ => ?_)
    exact congrArg (fun values => (name, Option.getD values [])) ((h.get?_eq name).trans (h'.get?_eq name).symm)
  cases p
  cases q
  cases hentries
  rfl

/-! ## What a write hands back -/

/-- What each write of a sequence hands back. -/
def replaced (p : Params) : List Entry → List (Option (List Text))
  | [] => []
  | e :: es => (p.replace e.1 e.2).1 :: (p.replace e.1 e.2).2.replaced es

/-- **A write hands back what stood under the name.** -/
theorem replace_fst (p : Params) (name : Text) (values : List Text) :
    (p.replace name values).1 = p.get? name := by
  have hentries : ∀ es : List Entry, (replaceEntry name values es).1 = es.lookup name := by
    intro es
    induction es with
    | nil => rfl
    | cons e es ih =>
      rw [lookup_cons]
      by_cases h : e.1 = name
      · rw [replaceEntry, if_pos h, if_pos h.symm]
      · rw [replaceEntry, if_neg h, if_neg fun e => h e.symm, ← ih]
  exact hentries p.entries

theorem replaced_append (p : Params) (es fs : List Entry) : p.replaced (es ++ fs) =
    p.replaced es ++ (es.foldl (fun p e => p.insert e.1 e.2) p).replaced fs := by
  induction es generalizing p with
  | nil => rfl
  | cons e es ih =>
    rw [List.cons_append, replaced, ih]
    rfl

theorem length_replaced (p : Params) (es : List Entry) : (p.replaced es).length = es.length := by
  induction es generalizing p with
  | nil => rfl
  | cons e es ih => rw [replaced, List.length_cons, ih, List.length_cons]

/-- The answer to a write is what the writes before it have left under its name. -/
theorem getElem?_replaced (before : List Entry) (e : Entry) (after : List Entry) :
    ((∅ : Params).replaced (before ++ e :: after))[before.length]? =
      some ((ofList before).get? e.1) := by
  have hlength := length_replaced ∅ before
  rw [replaced_append, List.getElem?_append_right (by omega), hlength, Nat.sub_self, replaced,
    List.getElem?_cons_zero, replace_fst]
  rfl

/-- A write adds to the names at most its own, at the end. -/
theorem names_prefix_insert (p : Params) (name : Text) (values : List Text) :
    p.names <+: (p.insert name values).names := by
  rw [names_insert]
  split
  · exact List.prefix_refl _
  · exact List.prefix_append _ _

/-- **Parameters are a map in which the last write wins, in the order of first writes.** After any
sequence of writes into no parameters, the names are those written, each once and in the order of
their first write, and under a name stand the values of its last write. Each write has handed back
what stood under its name just before it, and has changed nothing under any other name and no
place of a name. -/
theorem holds_last_writes (es : List Entry) :
    (ofList es).Records es ∧ (ofList es).names.Nodup ∧
      (ofList es).size = (es.map Prod.fst).toFinset.card ∧
      (∀ name, (ofList es).first? name = (es.reverse.lookup name).bind List.head?) ∧
      ((∅ : Params).replaced es).length = es.length ∧
      ∀ before e after, es = before ++ e :: after →
        ((∅ : Params).replaced es)[before.length]? = some ((ofList before).get? e.1) ∧
        (∀ name, name ≠ e.1 → (ofList (before ++ [e])).get? name = (ofList before).get? name) ∧
        (ofList before).names <+: (ofList (before ++ [e])).names := by
  have h := records_ofList es
  refine ⟨h, h.names_nodup, h.size_eq, ?_, length_replaced ∅ es, ?_⟩
  · intro name
    rw [first?, h.get?_eq]
  · rintro before e after rfl
    refine ⟨getElem?_replaced before e after, ?_, ?_⟩
    · intro name hname
      rw [ofList_append_singleton, get?_insert, if_neg hname]
    · rw [ofList_append_singleton]
      exact names_prefix_insert (ofList before) e.1 e.2

/-- A name is written again, with another one between. -/
theorem holds_last_writes_of_rewritten :
    let first : Entry := ("limit".toList, ["10".toList])
    let other : Entry := ("null".toList, [])
    let last : Entry := ("limit".toList, ["20".toList, "x".toList])
    (ofList [first, other, last]).size = 2 ∧
      (ofList [first, other, last]).first? "limit".toList = some "20".toList ∧
      ((∅ : Params).replaced [first, other, last])[2]? = some (some ["10".toList]) ∧
      (ofList [first, other]).names <+: (ofList [first, other, last]).names := by
  intro first other last
  obtain ⟨-, -, hsize, hfirst, -, hsteps⟩ := holds_last_writes [first, other, last]
  obtain ⟨hreplaced, -, hnames⟩ := hsteps [first, other] last [] rfl
  exact ⟨hsize, hfirst "limit".toList, hreplaced, hnames⟩

end MigrationDbml.Params
