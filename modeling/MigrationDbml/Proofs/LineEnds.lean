import MigrationDbml.Proofs.Conversions

/-!
# Line ends and the byte order mark

Two sources whose physical lines have the same texts are converted to the same, and
refused for the same reason. Only the bytes in front of a line may differ
(`convert_eq_mapError`).

So it makes no difference whether line feeds have carriage returns before them
(`convert_withReturns`), or whether there is a byte order mark (`convert_mark`), and
neither do both together (`convert_respell`).
-/

namespace MigrationDbml

open Text Source

namespace Source

/-- The text with a carriage return before each line feed. -/
def withReturns (t : Text) : Text := t.flatMap fun c => if c = '\n' then ['\r', '\n'] else [c]

/-- A source spelled differently: with carriage returns, with a byte order mark, or with both. -/
def respell (returns marked : Bool) (t : Text) : Text :=
  (if marked then [mark] else []) ++ if returns then withReturns t else t

variable {s t : Text} {m : Malformed}

/-- **Sources with the same texts.** If up to line `k + 1` the second has `moved k` bytes more than
the first, that is how far refusals move, and nothing else is different. -/
theorem convert_eq_mapError (moved : Nat → Nat) (htexts : texts t = texts s)
    (hcount : lineCount t = lineCount s)
    (hmoved : ∀ k, k < (pieces s).length → bodyOffset t + byteLength (ended '\n' ((pieces t).take k)) =
      bodyOffset s + byteLength (ended '\n' ((pieces s).take k)) + moved k) :
    convert t = (convert s).mapError fun m => m.shift (moved (m.line - 1)) := by
  cases hs : convert s with
  | ok c =>
    obtain ⟨hu, rfl⟩ := convert_eq_ok_iff.1 hs
    have hconversion : conversion s = conversion t := by
      rw [conversion, conversion, htexts, hcount]
    exact convert_eq_ok_iff.2 ⟨by rw [htexts]; exact hu, hconversion⟩
  | error m =>
    obtain ⟨before, piece, segs, b, ⟨⟨after, hp⟩, hu⟩, hseg, rfl⟩ := convert_eq_error_iff.1 hs
    -- the pieces of `t` are cut where those of `s` are
    rw [texts, texts, hp, List.map_append, List.map_cons] at htexts
    obtain ⟨before', rest, hp', hbefore, hrest⟩ := List.map_eq_append_iff.1 htexts
    obtain ⟨piece', after', rfl, hpiece, -⟩ := List.map_eq_cons_iff.1 hrest
    have hat : BreaksAt t before' piece' := by
      refine ⟨⟨after', hp'⟩, fun q hq => ?_⟩
      have hmem : dropReturn q ∈ before.map dropReturn := by
        rw [← hbefore]; exact List.mem_map_of_mem hq
      obtain ⟨r, hr, heq⟩ := List.mem_map.1 hmem
      rw [← heq]
      exact hu r hr
    have hlength := congrArg List.length hbefore
    rw [List.length_map, List.length_map] at hlength
    have hoffset := hmoved before.length (by rw [hp]; simp)
    rw [hp, List.take_left' rfl, hp', List.take_left' hlength] at hoffset
    rw [convert_of_breaksAt hat (by rw [hpiece]; exact hseg), hlength, hoffset]
    simp only [Except.mapError, Malformed.shift, Param.Break.malformed, Span.shift, Nat.add_sub_cancel,
      Except.error.injEq, Malformed.mk.injEq, Span.mk.injEq, true_and]
    omega

theorem head?_cons_ne {c d : Char} (h : d ≠ c) (r : Text) : (d :: r).head? ≠ some c :=
  fun e => h (Option.some.inj e)

theorem convert_mark (hne : s ≠ []) (hmark : s.head? ≠ some mark) :
    convert (mark :: s) = (convert s).mapError fun m => m.shift 3 := by
  have hpieces : pieces (mark :: s) = pieces s := (pieces_of_head? hmark).1.symm
  have hlast : (mark :: s).getLast? = s.getLast? := by
    obtain ⟨c, r, rfl⟩ := List.exists_cons_of_ne_nil hne
    rfl
  refine convert_eq_mapError (fun _ => 3) (by rw [texts, texts, hpieces]) ?_ ?_
  · rw [lineCount, lineCount, hlast, List.count_cons_of_ne (by decide)]
  · intro k _
    have hoffset : bodyOffset (mark :: s) = 3 := rfl
    rw [hpieces, hoffset, (pieces_of_head? hmark).2]
    omega

theorem withReturns_append (s t : Text) : withReturns (s ++ t) = withReturns s ++ withReturns t :=
  List.flatMap_append

theorem withReturns_of_not_mem (h : '\n' ∉ t) : withReturns t = t := by
  induction t with
  | nil => rfl
  | cons c t ih =>
    rw [List.mem_cons, not_or] at h
    have hc : ¬ c = '\n' := fun e => h.1 e.symm
    rw [withReturns, List.flatMap_cons, if_neg hc]
    exact congrArg (c :: ·) (ih h.2)

theorem withReturns_ended {ps : List Text} (h : ∀ p ∈ ps, '\n' ∉ p) :
    withReturns (ended '\n' ps) = ended '\n' (ps.map (· ++ ['\r'])) := by
  induction ps with
  | nil => rfl
  | cons p ps ih =>
    have hp := withReturns_of_not_mem (h p List.mem_cons_self)
    have hps := ih fun q hq => h q (List.mem_cons_of_mem p hq)
    have hfeed : withReturns ('\n' :: ended '\n' ps) = '\r' :: '\n' :: withReturns (ended '\n' ps) := rfl
    rw [ended_cons, withReturns_append, hp, hfeed, hps, List.map_cons, ended_cons]
    simp

theorem getLast?_withReturns (t : Text) : (withReturns t).getLast? = t.getLast? := by
  rcases t.eq_nil_or_concat with rfl | ⟨u, c, rfl⟩
  · rfl
  · rw [List.concat_eq_append, withReturns_append, List.getLast?_append, List.getLast?_concat]
    by_cases hc : c = '\n'
    · subst hc; rfl
    · rw [withReturns_of_not_mem (by simpa using fun e => hc e.symm)]; rfl

/-- A piece that ends with a carriage return stands last, unless the source has both line ends. -/
theorem getLast?_ne_return {ps : List Text} {p : Text} (hs : s = ended '\n' ps ++ p)
    (h : ¬ ['\r', '\n'] <:+: s) : ∀ q ∈ ps, q.getLast? ≠ some '\r' := by
  intro q hq hlast
  obtain ⟨u, rfl⟩ := List.getLast?_eq_some_iff.1 hlast
  obtain ⟨before, after, rfl⟩ := List.append_of_mem hq
  refine h ⟨ended '\n' before ++ u, ended '\n' after ++ p, ?_⟩
  rw [hs, ended_append, ended_cons]
  simp

theorem byteLength_ended_returns (ps : List Text) :
    byteLength (ended '\n' (ps.map (· ++ ['\r']))) = byteLength (ended '\n' ps) + ps.length := by
  induction ps with
  | nil => rfl
  | cons p ps ih =>
    have hreturn : byteLength (p ++ ['\r']) = byteLength p + 1 := byteLength_append p ['\r']
    rw [List.map_cons, byteLength_ended_cons rfl, byteLength_ended_cons rfl, ih, hreturn,
      List.length_cons]
    omega

theorem head?_withReturns_ne (h : s.head? ≠ some mark) : (withReturns s).head? ≠ some mark := by
  cases s with
  | nil => exact h
  | cons c r =>
    rw [withReturns, List.flatMap_cons]
    split
    · exact head?_cons_ne (by decide) _
    · exact h

theorem withReturns_ne_nil (h : s ≠ []) : withReturns s ≠ [] := by
  intro e
  have hlast := getLast?_withReturns s
  rw [e] at hlast
  exact h (List.getLast?_eq_none_iff.1 hlast.symm)

/-- The carriage returns end every piece but the last. -/
theorem exists_pieces_withReturns (hmark : s.head? ≠ some mark) (h : ¬ ['\r', '\n'] <:+: s) :
    ∃ ps p, pieces s = ps ++ [p] ∧ pieces (withReturns s) = ps.map (· ++ ['\r']) ++ [p] ∧
      ∀ q ∈ ps, q.getLast? ≠ some '\r' := by
  obtain ⟨ps, p, hp⟩ := (s.splitOn '\n').eq_nil_or_concat.resolve_left (List.splitOn_ne_nil '\n' s)
  rw [List.concat_eq_append] at hp
  have hs : s = ended '\n' ps ++ p := by
    rw [eq_of_splitOn hp, led_nil, List.append_nil]
  have hnot : ∀ q ∈ ps ++ [p], '\n' ∉ q := by
    intro q hq
    rw [← hp] at hq
    exact not_mem_of_mem_splitOn hq
  have hnp := hnot p (by simp)
  have hnps : ∀ q ∈ ps, '\n' ∉ q := fun q hq => hnot q (List.mem_append_left _ hq)
  have hreturns : withReturns s = ended '\n' (ps.map (· ++ ['\r'])) ++ p ++ led '\n' [] := by
    rw [hs, withReturns_append, withReturns_ended hnps, withReturns_of_not_mem hnp, led_nil, List.append_nil]
  refine ⟨ps, p, by rw [(pieces_of_head? hmark).1, hp], ?_, getLast?_ne_return hs h⟩
  rw [(pieces_of_head? (head?_withReturns_ne hmark)).1, hreturns]
  refine splitOn_ended_led fun r hr => ?_
  rcases List.mem_append.1 hr with hr | hr
  · obtain ⟨q, hq, rfl⟩ := List.mem_map.1 hr
    simpa using hnps q hq
  · rw [List.mem_singleton.1 hr]
    exact hnp

theorem convert_withReturns (hmark : s.head? ≠ some mark) (h : ¬ ['\r', '\n'] <:+: s) :
    convert (withReturns s) = (convert s).mapError fun m => m.shift (m.line - 1) := by
  obtain ⟨ps, p, hs, hreturns, hps⟩ := exists_pieces_withReturns hmark h
  have hmark' := head?_withReturns_ne hmark
  refine convert_eq_mapError (fun k => k) ?_ ?_ ?_
  · rw [texts, texts, hs, hreturns, List.map_append, List.map_append, List.map_map]
    refine congrArg (· ++ _) (List.map_congr_left fun q hq => ?_)
    simp [dropReturn, hps q hq]
  · -- there are as many pieces, hence as many line feeds
    have hcount := congrArg List.length hreturns
    have hcount' := congrArg List.length hs
    rw [length_pieces, List.length_append] at hcount'
    rw [length_pieces, List.length_append, List.length_map] at hcount
    rw [lineCount, lineCount, getLast?_withReturns]
    omega
  · intro k hk
    rw [hs, List.length_append, List.length_singleton] at hk
    rw [hs, hreturns, (pieces_of_head? hmark).2, (pieces_of_head? hmark').2,
      List.take_append_of_le_length (by rw [List.length_map]; omega),
      List.take_append_of_le_length (by omega), ← List.map_take, byteLength_ended_returns, List.length_take]
    omega

theorem line_pos_of_convert (h : convert s = .error m) : 1 ≤ m.line := by
  obtain ⟨before, piece, segs, b, -, -, rfl⟩ := convert_eq_error_iff.1 h
  exact Nat.le_add_left 1 before.length

/-- The bytes in front of a line and in front of the source add up. -/
theorem convert_respell_eq (hne : s ≠ []) (hmark : s.head? ≠ some mark) (h : ¬ ['\r', '\n'] <:+: s)
    (returns marked : Bool) : convert (respell returns marked s) = (convert s).mapError fun m =>
      m.shift ((if returns then m.line - 1 else 0) + if marked then 3 else 0) := by
  have hreturns := convert_withReturns hmark h
  have hmarked := convert_mark (withReturns_ne_nil hne) (head?_withReturns_ne hmark)
  cases returns <;> cases marked
  · have hsame : respell false false s = s := rfl
    rw [hsame]
    cases convert s <;> rfl
  · exact convert_mark hne hmark
  · exact hreturns
  · have hboth : respell true true s = mark :: withReturns s := rfl
    rw [hboth, hmarked, hreturns]
    cases convert s with
    | ok c => rfl
    | error m => exact congrArg Except.error (m.shift_shift (m.line - 1) 3)

end Source

/-- **Line ends and a byte order mark make no difference**, but for the bytes they take. -/
theorem convert_respell {s : Text} (hne : s ≠ []) (hmark : s.head? ≠ some mark)
    (hreturns : ¬ ['\r', '\n'] <:+: s) (returns marked : Bool) :
    (∀ c, convert (respell returns marked s) = .ok c ↔ convert s = .ok c) ∧
      ∀ m, convert s = .error m → 1 ≤ m.line ∧ convert (respell returns marked s) =
        .error (m.shift ((if returns then m.line - 1 else 0) + if marked then 3 else 0)) := by
  rw [convert_respell_eq hne hmark hreturns]
  refine ⟨fun c => ?_, fun m h => ⟨line_pos_of_convert h, by rw [h]; rfl⟩⟩
  cases convert s <;> simp [Except.mapError]

/-- Carriage returns inside a line and at the end, a blank line, and a refusal behind them. -/
theorem convert_respell_of_returns :
    let s := "t.money a\rb\n\nend\r".toList
    let w : Warning := ⟨1, .unsupportedType "t.money".toList, "t.money a\rb".toList⟩
    let c : Conversion := ⟨3, [w.bestEffort "a".toList, ['\x7d']], [w]⟩
    let s' := "end\n\r\rt.text é, null x".toList
    convert s = .ok c ∧ convert (respell true true s) = .ok c ∧
      convert s' = .error ⟨2, "null".toList, 'x', ⟨22, 23⟩⟩ ∧
      convert (respell true true s') = .error ⟨2, "null".toList, 'x', ⟨26, 27⟩⟩ := by
  intro s w c s'
  have hc : convert s = .ok c := by decide +kernel
  have hm : convert s' = .error ⟨2, "null".toList, 'x', ⟨22, 23⟩⟩ := by decide +kernel
  obtain ⟨hok, -⟩ := convert_respell (s := s) (by decide +kernel) (by decide +kernel)
    (by decide +kernel) true true
  obtain ⟨-, herror⟩ := convert_respell (s := s') (by decide +kernel) (by decide +kernel)
    (by decide +kernel) true true
  exact ⟨hc, (hok c).2 hc, hm, (herror _ hm).2⟩

end MigrationDbml
