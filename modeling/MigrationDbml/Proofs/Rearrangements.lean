import Mathlib.Logic.Relation
import MigrationDbml.Proofs.Emissions
import MigrationDbml.Proofs.Parameters

/-!
# What the order of parameters matters for

An emission looks up five names on a line (`Emission.consulted`) and nothing else of its
parameters. Under each of them stands what the last segment of that name says. So the segments
may change places (`Rearrangement`), as long as those of one name stay in their order, and
segments of other names may come and go. One such step keeps, for each consulted name, the list
of its segments (`Rearrangement.segmentsOf_eq`), and with it what is emitted.

* `Emission.ofLine_congr`: what an emission depends on.
* `Line.get?_eq_getLast?`: the values under a name, in terms of its segments alone.
* `emission_of_rearranged`: rearranged lines are accepted and emit the same.
-/

namespace MigrationDbml

open Text Dbml

namespace Param

/-- What a segment states, unless it is malformed. -/
def read? (s : Text) : Option Param := (parse 0 s).toOption

/-- The name of the parameter that a segment states, unless it is malformed. -/
def name? (s : Text) : Option Text := (read? s).map name

theorem toOption_parse (line : Nat) (s : Text) : (parse line s).toOption = read? s := by
  rw [read?, parse_eq_mapError line 0]
  cases parse 0 s <;> rfl

theorem not_isBroken_of_name? {s name : Text} (h : name? s = some name) : ¬ IsBroken s := by
  obtain ⟨p, hp, -⟩ := Option.map_eq_some_iff.1 h
  refine (not_isBroken_iff 0).2 ⟨p, ?_⟩
  rw [read?] at hp
  cases hparse : parse 0 s with
  | error m => rw [hparse] at hp; cases hp
  | ok q => rw [hparse] at hp; rw [Option.some.inj hp]

end Param

/-- The segments of a name. -/
def segmentsOf (name : Text) (ss : List Text) : List Text :=
  ss.filter fun s => Param.name? s = some name

namespace Line

variable {number : Nat} {t : Text} {l : Line}

/-- **The values under a name depend on the segments of that name only.** -/
theorem get?_eq_getLast? (h : parse number t = .ok l) (name : Text) : l.params.get? name =
    ((segmentsOf name (segments t).tail).filterMap Param.read?).getLast?.map Param.values := by
  have hread : (fun s => (Param.parse number s).toOption) = Param.read? :=
    funext (Param.toOption_parse number)
  -- the parameters of a name are those of the segments of that name
  have hfilter : ((segments t).tail.filterMap Param.read?).filter (·.name = name) =
      (segmentsOf name (segments t).tail).filterMap Param.read? := by
    rw [segmentsOf, List.filter_filterMap, List.filterMap_filter]
    refine List.filterMap_congr fun s _ => ?_
    unfold Param.name?
    cases Param.read? s with
    | none => simp
    | some p => simp [Option.filter]
  rw [get?_eq_lastValues? h, lastValues?, hread, ← List.head?_filter, List.filter_reverse,
    List.head?_reverse, hfilter]

end Line

namespace Dbml.Emission

/-- The names under which an emission looks for values. -/
def consulted : List Text :=
  ["id".toList, "limit".toList, "comment".toList, "null".toList, "default".toList]

/-- **What an emission depends on**: the head, the name, and the values under the consulted names. -/
theorem ofLine_congr {l l' : Line} (hhead : l'.head = l.head) (hname : l'.name = l.name)
    (hget : ∀ name ∈ consulted, l'.params.get? name = l.params.get? name) (number : Nat) (t : Text) :
    ofLine number t l' = ofLine number t l := by
  have hid := hget "id".toList (by simp [consulted])
  have hlimit := hget "limit".toList (by simp [consulted])
  have hcomment := hget "comment".toList (by simp [consulted])
  have hnull := hget "null".toList (by simp [consulted])
  have hdefault := hget "default".toList (by simp [consulted])
  have htable : ofTable number t l' = ofTable number t l := by
    rw [ofTable, ofTable, hname, hid]
  have hunknown : ∀ keyword, ofUnknownColumn number t keyword l' = ofUnknownColumn number t keyword l := by
    intro keyword
    rw [ofUnknownColumn, ofUnknownColumn, hname]
  have hcolumn : ∀ type, Column.ofLine type l' = Column.ofLine type l := by
    intro type
    rw [Column.ofLine, Column.ofLine, Params.first?, Params.first?, Params.first?, Params.first?,
      Params.first?, Params.first?, hname, hlimit, hcomment, hnull, hdefault]
  unfold ofLine Line.statement
  rw [hhead]
  simp only [htable, hunknown, hcolumn]

end Dbml.Emission

/-- Whether a segment may stand anywhere on a line without a trace: it is one segment, it is not
malformed, and its name is not consulted. -/
structure IsForeign (s : Text) : Prop where
  comma_not_mem : ',' ∉ s
  name : ∃ name, Param.name? s = some name ∧ name ∉ Emission.consulted

/-- One change to the segments behind the first comma. -/
inductive Rearrangement : List Text → List Text → Prop
  /-- The segments change places, those of one name among each other not. -/
  | permute {ss ss' : List Text} (hperm : ss.Perm ss')
      (horder : ∀ s ∈ ss, ss'.filter (Param.name? · = Param.name? s) =
        ss.filter (Param.name? · = Param.name? s)) : Rearrangement ss ss'
  /-- A foreign segment comes in. -/
  | insert (before : List Text) {s : Text} (after : List Text) (hs : IsForeign s) :
      Rearrangement (before ++ after) (before ++ s :: after)
  /-- A foreign segment goes away. -/
  | delete (before : List Text) {s : Text} (after : List Text) (hs : IsForeign s) :
      Rearrangement (before ++ s :: after) (before ++ after)

/-- Whether the segments can be written on a line, and are accepted there. -/
def Writable (ss : List Text) : Prop := ∀ s ∈ ss, ',' ∉ s ∧ ¬ Param.IsBroken s

theorem IsForeign.segmentsOf_eq {s name : Text} (hs : IsForeign s) (hname : name ∈ Emission.consulted)
    (before after : List Text) :
    segmentsOf name (before ++ s :: after) = segmentsOf name (before ++ after) := by
  obtain ⟨-, other, hother, hnot⟩ := hs
  have hne : Param.name? s ≠ some name := by
    rw [hother]
    exact fun e => hnot (Option.some.inj e ▸ hname)
  rw [segmentsOf, segmentsOf, List.filter_append, List.filter_append,
    List.filter_cons_of_neg (by simpa using hne)]

namespace Rearrangement

variable {ss ss' : List Text}

/-- **A step keeps the segments of each consulted name.** -/
theorem segmentsOf_eq (h : Rearrangement ss ss') {name : Text} (hname : name ∈ Emission.consulted) :
    segmentsOf name ss' = segmentsOf name ss := by
  cases h with
  | permute hperm horder =>
    by_cases hin : ∃ s ∈ ss, Param.name? s = some name
    · obtain ⟨s, hs, hsname⟩ := hin
      have hsame := horder s hs
      rw [hsname] at hsame
      exact hsame
    · -- without a segment of that name there is none after the change either
      have hnone : ∀ s ∈ ss, Param.name? s ≠ some name := fun s hs e => hin ⟨s, hs, e⟩
      have hnone' : ∀ s ∈ ss', Param.name? s ≠ some name := fun s hs => hnone s (hperm.mem_iff.2 hs)
      rw [segmentsOf, segmentsOf, List.filter_eq_nil_iff.2 (by simpa using hnone'),
        List.filter_eq_nil_iff.2 (by simpa using hnone)]
  | insert before after hs => exact hs.segmentsOf_eq hname before after
  | delete before after hs => exact (hs.segmentsOf_eq hname before after).symm

theorem writable (h : Rearrangement ss ss') (hss : Writable ss) : Writable ss' := by
  cases h with
  | permute hperm _ => exact fun s hs => hss s (hperm.mem_iff.2 hs)
  | insert before after hs =>
    intro r hr
    rcases List.mem_append.1 hr with hr | hr
    · exact hss r (List.mem_append_left after hr)
    · rcases List.mem_cons.1 hr with rfl | hr
      · obtain ⟨hcomma, name, hname, -⟩ := hs
        exact ⟨hcomma, Param.not_isBroken_of_name? hname⟩
      · exact hss r (List.mem_append_right before hr)
  | delete before after _ =>
    intro r hr
    refine hss r ?_
    rcases List.mem_append.1 hr with hr | hr
    · exact List.mem_append_left _ hr
    · exact List.mem_append_right before (List.mem_cons_of_mem _ hr)

end Rearrangement

/-- Whether segments are brought into others by any number of changes. -/
def Rearranges : List Text → List Text → Prop := Relation.ReflTransGen Rearrangement

namespace Rearranges

variable {ss ss' : List Text}

theorem segmentsOf_eq (h : Rearranges ss ss') {name : Text} (hname : name ∈ Emission.consulted) :
    segmentsOf name ss' = segmentsOf name ss := by
  induction h with
  | refl => rfl
  | tail _ hstep ih => rw [hstep.segmentsOf_eq hname, ih]

theorem writable (h : Rearranges ss ss') (hss : Writable ss) : Writable ss' := by
  induction h with
  | refl => exact hss
  | tail _ hstep ih => exact hstep.writable ih

end Rearranges

namespace Line

variable {number : Nat} {t first : Text} {ss : List Text} {l : Line}

theorem writable_of_parse (h : parse number t = .ok l) (hs : segments t = first :: ss) :
    Writable ss := by
  intro s hmem
  have hcomma : ',' ∉ s :=
    comma_not_mem_of_mem_segments (t := t) (by rw [hs]; exact List.mem_cons_of_mem first hmem)
  exact ⟨hcomma, fun hb => not_isBroken_of_parse h ⟨s, by rw [hs, List.tail_cons]; exact hmem, hb⟩⟩

theorem segments_intercalate (hfirst : ',' ∉ first) (hss : Writable ss) :
    segments ([','].intercalate (first :: ss)) = first :: ss := by
  refine List.splitOn_intercalate ',' ?_ (by simp)
  intro s hs
  rcases List.mem_cons.1 hs with rfl | hs
  · exact hfirst
  · exact (hss s hs).1

end Line

open Line

/-- **Emissions do not see the order of parameters, nor foreign ones.** A line that comes from an
accepted one by changing the places of its segments, but not among those of one name, and by putting
in and taking away foreign segments, is accepted, and becomes the same under any number and text. -/
theorem emission_of_rearranged {number : Nat} {t first : Text} {ss ss' : List Text} {l : Line}
    (h : parse number t = .ok l) (hs : segments t = first :: ss) (hss : Rearranges ss ss')
    (number' : Nat) : ∃ l', parse number' ([','].intercalate (first :: ss')) = .ok l' ∧
      ∀ cited source, Emission.ofLine cited source l' = Emission.ofLine cited source l := by
  have hfirst : ',' ∉ first :=
    comma_not_mem_of_mem_segments (t := t) (by rw [hs]; exact List.mem_cons_self)
  have hwritable := hss.writable (writable_of_parse h hs)
  have hs' := segments_intercalate hfirst hwritable
  have hunbroken : ¬ Line.IsBroken ([','].intercalate (first :: ss')) := by
    rintro ⟨s, hmem, hb⟩
    rw [hs', List.tail_cons] at hmem
    exact (hwritable s hmem).2 hb
  obtain ⟨l', h'⟩ := exists_parse_ok number' hunbroken
  obtain ⟨hhead, hname⟩ := lead_of_parse h hs
  obtain ⟨hhead', hname'⟩ := lead_of_parse h' hs'
  refine ⟨l', h', Emission.ofLine_congr (hhead'.trans hhead.symm) (hname'.trans hname.symm) ?_⟩
  intro name hmem
  rw [get?_eq_getLast? h, get?_eq_getLast? h', hs, hs', List.tail_cons, List.tail_cons,
    hss.segmentsOf_eq hmem]

/-- A column with a limit written twice: the segments change places, one goes away, and two come in,
one of them blank. -/
theorem emission_of_rearranged_of_limits :
    let t := "t.string \"b\", limit: 9, x: 1, null: false, limit: \"5\", default: it's".toList
    let t' := "t.string \"b\", default: it's, limit: 9, , null: false, limit: \"5\", comments: no".toList
    let l : Line := ⟨"t.string".toList, "b".toList,
      ⟨[("limit".toList, ["5".toList]), ("x".toList, ["1".toList]), ("null".toList, ["false".toList]),
        ("default".toList, ["it's".toList])], by decide +kernel⟩⟩
    parse 1 t = .ok l ∧ ∃ l', parse 2 t' = .ok l' ∧
      ∀ cited source, Emission.ofLine cited source l' = Emission.ofLine cited source l := by
  intro t t' l
  have h : parse 1 t = .ok l := by decide +kernel
  let first : Text := "t.string \"b\"".toList
  let nine : Text := " limit: 9".toList
  let five : Text := " limit: \"5\"".toList
  let null : Text := " null: false".toList
  let default : Text := " default: it's".toList
  have hs : segments t = first :: [nine, " x: 1".toList, null, five, default] := by decide +kernel
  have hdelete : Rearrangement [nine, " x: 1".toList, null, five, default] [nine, null, five, default] :=
    .delete [nine] _ ⟨by decide, "x".toList, by decide +kernel, by decide +kernel⟩
  have hpermute : Rearrangement [nine, null, five, default] [default, nine, null, five] :=
    .permute (by decide +kernel) (by decide +kernel)
  have hblank : Rearrangement [default, nine, null, five] [default, nine, " ".toList, null, five] :=
    .insert [default, nine] _ ⟨by decide, [], by decide +kernel, by decide +kernel⟩
  have hinsert : Rearrangement [default, nine, " ".toList, null, five]
      [default, nine, " ".toList, null, five, " comments: no".toList] :=
    .insert [default, nine, " ".toList, null, five] []
      ⟨by decide, "comments".toList, by decide +kernel, by decide +kernel⟩
  have hss : Rearranges _ _ :=
    (((Relation.ReflTransGen.single hdelete).tail hpermute).tail hblank).tail hinsert
  have ht' : t' = [','].intercalate
      (first :: [default, nine, " ".toList, null, five, " comments: no".toList]) := by decide +kernel
  rw [ht']
  exact ⟨h, emission_of_rearranged h hs hss 2⟩

end MigrationDbml
