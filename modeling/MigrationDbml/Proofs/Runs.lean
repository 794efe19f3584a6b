import MigrationDbml.Command.System

/-!
# Runs

How a run goes on any system. Between its steps on files it only puts lines on the error
stream (`System.Told`), and it crashes only where a stream does not take one
(`System.TakesLines`). `Course` says what else it can do: it fails at its source, at the
conversion or at its target, or it writes the target and reports that (`Closing`).

* `Session.course_convert`: every run takes one of these courses.
* `Course.ending_or_crashed`: on streams that lead to no file, the files and the exit code of
  a run that does not crash are as `Ending` says, and a crash leaves no file half written.
* `Ending.unique`: that says it all.
-/

namespace MigrationDbml.Command

variable {π σ φ : Type}

/-! ### The error stream -/

namespace System

variable {sys : System π σ} {s t u : σ}

/-- What notices and lines of the log make of a system. -/
inductive Told (sys : System π σ) (s : σ) : σ → Prop
  | refl : Told sys s s
  | record {t : σ} (told : Told sys s t) (line : Text) : Told sys s (sys.record t line).2
  | tell {t : σ} (told : Told sys s t) (notice : Notice) : Told sys s (sys.tell t notice).2

theorem Told.trans (h : sys.Told s t) (h' : sys.Told t u) : sys.Told s u := by
  induction h' with
  | refl => exact h
  | record _ line ih => exact ih.record line
  | tell _ notice ih => exact ih.tell notice

/-- What neither notices nor the log change stays as it is. -/
theorem Told.eq_of {α : Type} {f : σ → α} (h : sys.Told s t)
    (hrecord : ∀ u line, f (sys.record u line).2 = f u)
    (htell : ∀ u notice, f (sys.tell u notice).2 = f u) : f t = f s := by
  induction h with
  | refl => rfl
  | record _ line ih => rw [hrecord, ih]
  | tell _ notice ih => rw [htell, ih]

/-- **Whether streams take every line.** -/
structure TakesLines (sys : System π σ) : Prop where
  record_eq : ∀ s line, (sys.record s line).1 = .ok ()
  tell_eq : ∀ s notice, (sys.tell s notice).1 = .ok ()
  print_eq : ∀ s line, (sys.print s line).1 = .ok ()

/-- Whether a status is the expected one, or that of a crash over a line that was not taken. -/
def EndsAs (sys : System π σ) (expected status : Status) : Prop :=
  status = expected ∨ status = .crashed ∧ ¬ sys.TakesLines

theorem EndsAs.code_ne_zero {expected status : Status} (h : sys.EndsAs expected status)
    (hne : expected.code ≠ 0) : status.code ≠ 0 := by
  obtain rfl | ⟨rfl, -⟩ := h
  · exact hne
  · decide

/-- Whether a session comes to `rest` after lines on the error stream, or crashes over one. -/
def ComesTo (sys : System π σ) (s : σ) (x rest : Session π) : Prop :=
  ∃ t, sys.Told s t ∧ (x.runOn sys s = rest.runOn sys t ∨
    x.runOn sys s = (.crashed, t) ∧ ¬ sys.TakesLines)

namespace ComesTo

variable {x y z : Session π}

theorem refl (x : Session π) : sys.ComesTo s x x := ⟨s, .refl, .inl rfl⟩

theorem trans (h : sys.ComesTo s x y) (h' : ∀ t, sys.ComesTo t y z) : sys.ComesTo s x z := by
  obtain ⟨t, hst, hx | hx⟩ := h
  · obtain ⟨u, htu, hy⟩ := h' t
    rw [← hx] at hy
    exact ⟨u, hst.trans htu, hy⟩
  · exact ⟨t, hst, .inr hx⟩

/-- A session that comes to its exit ends with that status, or crashes. -/
theorem endsAs {status : Status} (h : sys.ComesTo s x (.exit status)) :
    ∃ t, sys.Told s t ∧ (x.runOn sys s).2 = t ∧ sys.EndsAs status (x.runOn sys s).1 := by
  obtain ⟨t, hst, hx | ⟨hx, hno⟩⟩ := h
  · exact ⟨t, hst, by rw [hx]; rfl, .inl (by rw [hx]; rfl)⟩
  · exact ⟨t, hst, by rw [hx], .inr ⟨by rw [hx], hno⟩⟩

end ComesTo

end System

namespace Session

variable (sys : System π σ) (s : σ)

/-- A line that was not taken has one notice more as its consequence, and the crash. -/
theorem comesTo_orCrash (stream : Text) (rest : Session π) {answer : Except FileError Unit}
    (h : sys.TakesLines → answer = .ok ()) : sys.ComesTo s (orCrash stream rest answer) rest := by
  cases answer with
  | ok _ => exact .refl rest
  | error e =>
    refine ⟨_, .tell .refl _, .inr ⟨rfl, fun htakes => ?_⟩⟩
    cases h htakes

theorem comesTo_say (notice : Notice) (rest : Session π) : sys.ComesTo s (say notice rest) rest := by
  obtain ⟨t, htold, hrun⟩ := comesTo_orCrash sys (sys.tell s notice).2 "stderr".toList rest
    fun htakes => htakes.tell_eq s notice
  exact ⟨t, (System.Told.refl.tell notice).trans htold, hrun⟩

theorem comesTo_tellAll (notices : List Notice) (rest : Session π) :
    sys.ComesTo s (tellAll notices rest) rest := by
  induction notices generalizing s with
  | nil => exact .refl rest
  | cons n ns ih => exact (comesTo_say sys s n (tellAll ns rest)).trans ih

theorem comesTo_log (f : Log.Filter) (es : List Log.Event) (rest : Session π) :
    sys.ComesTo s (log f es rest) rest := by
  unfold log
  induction es.filter f.shows generalizing s with
  | nil => exact .refl rest
  | cons e es ih =>
    obtain ⟨t, htold, hrun⟩ := (comesTo_orCrash sys (sys.record s e.text).2 "stderr".toList
      (es.foldr (fun e rest => record e.text (orCrash "stderr".toList rest)) rest)
      fun htakes => htakes.record_eq s e.text).trans ih
    exact ⟨t, (System.Told.refl.record e.text).trans htold, hrun⟩

theorem comesTo_fail (style : Style) (f : Failure) :
    sys.ComesTo s (fail style f) (.exit f.status) := comesTo_say sys s _ _

end Session

/-! ### Courses -/

/-- How a run ends after it has written its target: for people it goes on telling at most, and for
machines it prints its summary. -/
inductive Closing (sys : System π σ) (style : Style) (source target : Text) (c : Conversion) (s : σ) :
    Status → σ → Prop where
  | told {t : σ} {status : Status} (human : style.mode = .human) (told : sys.Told s t)
    (ends : sys.EndsAs .success status) : Closing sys style source target c s status t
  | printed {line : Text} (machine : style.mode ≠ .human)
    (summary : style.summary? source target c = some line) (print : (sys.print s line).1 = .ok ()) :
    Closing sys style source target c s .success (sys.print s line).2
  | refused {line : Text} {e : FileError} {t : σ} (print : (sys.print s line).1 = .error e)
    (told : sys.Told (sys.print s line).2 t) : Closing sys style source target c s .crashed t

theorem Closing.endsAs {sys : System π σ} {style : Style} {source target : Text} {c : Conversion}
    {s t : σ} {status : Status} (h : Closing sys style source target c s status t) :
    sys.EndsAs .success status := by
  cases h with
  | told human told ends => exact ends
  | printed machine summary print => exact .inl rfl
  | refused print told =>
    refine .inr ⟨rfl, fun htakes => ?_⟩
    rw [htakes.print_eq] at print
    cases print

/-- **What a run on two paths can do**, with the status it ends with, the conversion that it wrote
to its target, and what it leaves behind. -/
inductive Course [Path π] (sys : System π σ) (style : Style) (source target : π) (s : σ) :
    Status → Option Conversion → σ → Prop where
  | crashed {t : σ} (told : sys.Told s t) (refused : ¬ sys.TakesLines) :
    Course sys style source target s .crashed none t
  | unreadable {t u : σ} {e : FileError} {status : Status} (told : sys.Told s t)
    (read : sys.read t source = .error e) (failed : sys.Told t u)
    (ends : sys.EndsAs .failed status) : Course sys style source target s status none u
  | malformed {t u : σ} {content : Bytes} {m : Malformed} {status : Status} (told : sys.Told s t)
    (read : sys.read t source = .ok content) (refused : convert (Utf8.decode content) = .error m)
    (failed : sys.Told t u) (ends : sys.EndsAs .malformed status) :
    Course sys style source target s status none u
  | unwritable {t u v : σ} {content : Bytes} {c : Conversion} {e : FileError} {status : Status}
    (told : sys.Told s t) (read : sys.read t source = .ok content)
    (converted : convert (Utf8.decode content) = .ok c) (warned : sys.Told t u)
    (write : (sys.write u target (Utf8.encode c.dbml)).1 = .error e)
    (failed : sys.Told (sys.write u target (Utf8.encode c.dbml)).2 v)
    (ends : sys.EndsAs .failed status) : Course sys style source target s status none v
  | written {t u v : σ} {content : Bytes} {c : Conversion} {status : Status}
    (told : sys.Told s t) (read : sys.read t source = .ok content)
    (converted : convert (Utf8.decode content) = .ok c) (warned : sys.Told t u)
    (write : (sys.write u target (Utf8.encode c.dbml)).1 = .ok ())
    (closing : Closing sys style (Path.text source) (Path.text target) c
      (sys.write u target (Utf8.encode c.dbml)).2 status v) :
    Course sys style source target s status (some c) v

namespace Session

variable [Path π] {sys : System π σ} {s : σ} {style : Style} {source target : π}

theorem summary?_ne_none (style : Style) (source target : Text) (c : Conversion)
    (h : style.mode ≠ .human) : style.summary? source target c ≠ none := by
  unfold Style.summary?
  cases hmode : style.mode with
  | human => exact absurd hmode h
  | json => exact Option.some_ne_none _
  | plain => exact Option.some_ne_none _

theorem closing_finish (style : Style) (source target : π) (c : Conversion) :
    Closing sys style (Path.text source) (Path.text target) c s
      ((finish style source target c).runOn sys s).1 ((finish style source target c).runOn sys s).2 := by
  have hsome := summary?_ne_none style (Path.text source) (Path.text target) c
  unfold finish
  cases hsummary : style.summary? (Path.text source) (Path.text target) c with
  | none =>
    have hmode : style.mode = .human :=
      Decidable.byContradiction fun hmode => hsome hmode hsummary
    exact .told hmode .refl (.inl rfl)
  | some line =>
    have hprinted : ∀ hmode : style.mode ≠ .human, Closing sys style (Path.text source)
        (Path.text target) c s
          ((print line (orCrash "stdout".toList (exit .success)) : Session π).runOn sys s).1
          ((print line (orCrash "stdout".toList (exit .success)) : Session π).runOn sys s).2 := by
      intro hmode
      simp only [runOn]
      cases hprint : (sys.print s line).1 with
      | ok _ => exact .printed hmode hsummary hprint
      | error e => exact .refused hprint (.tell .refl _)
    cases hmode : style.mode with
    | human =>
      obtain ⟨t, htold, rfl, hends⟩ := (comesTo_say sys s (.line line) (exit .success)).endsAs
      exact .told hmode htold hends
    | json => exact hprinted (by rw [hmode]; exact Mode.noConfusion)
    | plain => exact hprinted (by rw [hmode]; exact Mode.noConfusion)

theorem course_deliver {t : σ} {content : Bytes} {c : Conversion} (f : Log.Filter)
    (hst : sys.Told s t) (hread : sys.read t source = .ok content)
    (hconvert : MigrationDbml.convert (Utf8.decode content) = .ok c) {u : σ} (htu : sys.Told t u) :
    ∃ k, Course sys style source target s ((deliver style f source target c).runOn sys u).1 k
      ((deliver style f source target c).runOn sys u).2 := by
  unfold deliver
  obtain ⟨v, huv, hrun | ⟨hcrash, hno⟩⟩ :=
    (comesTo_tellAll sys u _ _).trans fun t => comesTo_log sys t f _ _
  · rw [hrun, runOn]
    cases hwrite : (sys.write v target (Utf8.encode c.dbml)).1 with
    | error e =>
      obtain ⟨w, hvw, rfl, hends⟩ := (comesTo_fail sys
        (sys.write v target (Utf8.encode c.dbml)).2 style (.file (Path.text target) e)).endsAs
      exact ⟨none, .unwritable hst hread hconvert (htu.trans huv) hwrite hvw hends⟩
    | ok _ =>
      exact ⟨some c, .written hst hread hconvert (htu.trans huv) hwrite
        (closing_finish style source target c)⟩
  · rw [hcrash]
    exact ⟨none, .crashed (hst.trans (htu.trans huv)) hno⟩

/-- **Every run takes one of the courses.** -/
theorem course_convert (sys : System π σ) (s : σ) (style : Style) (f : Log.Filter)
    (source target : π) :
    ∃ k, Course sys style source target s ((convert style f source target).runOn sys s).1 k
      ((convert style f source target).runOn sys s).2 := by
  unfold convert
  obtain ⟨t, hst, hrun | ⟨hcrash, hno⟩⟩ := comesTo_log sys s f
    [.readingSource (Path.text source)] _
  · rw [hrun, runOn]
    cases hread : sys.read t source with
    | error e =>
      obtain ⟨u, htu, rfl, hends⟩ :=
        (comesTo_fail sys t style (.file (Path.text source) e)).endsAs
      exact ⟨none, .unreadable hst hread htu hends⟩
    | ok content =>
      obtain ⟨u, htu, hrun | ⟨hcrash, hno⟩⟩ := comesTo_log sys t f
        (transcribe (Utf8.decode content)).events _
      · rw [hrun]
        cases hconverted : (transcribe (Utf8.decode content)).result with
        | error m =>
          obtain ⟨v, huv, rfl, hends⟩ := (comesTo_fail sys u style
            (.malformed (Path.text source) m (Utf8.decode content))).endsAs
          exact ⟨none, .malformed hst hread hconverted (htu.trans huv) hends⟩
        | ok c => exact course_deliver f hst hread hconverted htu
      · rw [hcrash]
        exact ⟨none, .crashed (hst.trans htu) hno⟩
  · rw [hcrash]
    exact ⟨none, .crashed hst hno⟩

end Session

theorem Arguments.paths?_eq_some_iff {a : Arguments π} {source target : π} :
    a.paths? = some (source, target) ↔ a.source = some source ∧ a.target = some target := by
  unfold paths?
  cases a.source <;> cases a.target <;> simp

namespace Session

variable [Path π] (sys : System π σ) (s : σ) (w : Surroundings) {a : Arguments π}

/-- Arguments with two paths ask for a run on them. -/
theorem exists_course {source target : π} (h : a.paths? = some (source, target)) :
    ∃ k, Course sys (a.style w.terminal) source target s ((ofAccepted w a).runOn sys s).1 k
      ((ofAccepted w a).runOn sys s).2 := by
  have hsession : ofAccepted w a = convert (a.style w.terminal) (a.filter w.log) source target := by
    rw [ofAccepted, h]
  rw [hsession]
  exact course_convert sys s (a.style w.terminal) (a.filter w.log) source target

/-- Arguments with fewer paths fail and say so. -/
theorem exists_told_of_paths?_eq_none (h : a.paths? = none) :
    ∃ t, sys.Told s t ∧ ((ofAccepted w a).runOn sys s).2 = t ∧
      sys.EndsAs .failed ((ofAccepted w a).runOn sys s).1 := by
  have hsession : ofAccepted w a = fail (a.style w.terminal) .usage := by
    rw [ofAccepted, h]
  rw [hsession]
  exact (comesTo_fail sys s (a.style w.terminal) .usage).endsAs

end Session

/-! ### Files -/

/-- **Whether the files of a system are those of a file system**, and no stream leads to them. -/
structure System.Over (sys : System π σ) (fs : FileSystem φ π) (files : σ → φ) : Prop where
  read_eq : ∀ s path, sys.read s path = fs.read (files s) path
  write_eq : ∀ s path content, ((sys.write s path content).1, files (sys.write s path content).2) =
    match fs.write (files s) path content with
    | .error e => (.error e, files s)
    | .ok left => (.ok (), left)
  files_record : ∀ s line, files (sys.record s line).2 = files s
  files_tell : ∀ s notice, files (sys.tell s notice).2 = files s
  files_print : ∀ s line, files (sys.print s line).2 = files s

namespace System.Over

variable {sys : System π σ} {fs : FileSystem φ π} {files : σ → φ} {s t : σ} {path : π}
  {content : Bytes}

theorem files_told (h : sys.Over fs files) (htold : sys.Told s t) : files t = files s :=
  htold.eq_of h.files_record h.files_tell

/-- A write that fails leaves all files as they were. -/
theorem write_error (h : sys.Over fs files) {e : FileError}
    (hwrite : (sys.write s path content).1 = .error e) :
    fs.write (files s) path content = .error e ∧
      files (sys.write s path content).2 = files s := by
  have heq := h.write_eq s path content
  cases hfs : fs.write (files s) path content with
  | error e' =>
    rw [hfs, hwrite] at heq
    obtain ⟨hanswer, hfiles⟩ := Prod.mk.inj heq
    rw [Except.error.inj hanswer]
    exact ⟨rfl, hfiles⟩
  | ok left =>
    rw [hfs, hwrite] at heq
    cases (Prod.mk.inj heq).1

theorem write_ok (h : sys.Over fs files) (hwrite : (sys.write s path content).1 = .ok ()) :
    fs.write (files s) path content = .ok (files (sys.write s path content).2) := by
  have heq := h.write_eq s path content
  cases hfs : fs.write (files s) path content with
  | error e =>
    rw [hfs, hwrite] at heq
    cases (Prod.mk.inj heq).1
  | ok left =>
    rw [hfs] at heq
    rw [(Prod.mk.inj heq).2]

theorem files_closing (h : sys.Over fs files) {style : Style} {source target : Text}
    {c : Conversion} {status : Status} (hclosing : Closing sys style source target c s status t) :
    files t = files s := by
  cases hclosing with
  | told human told ends => exact h.files_told told
  | printed machine summary print => exact h.files_print s _
  | refused print told => rw [h.files_told told, h.files_print]

end System.Over

/-- **How a run on two paths ends**, with its exit code, the files that it leaves, and the
conversion that it delivered. -/
inductive Ending (fs : FileSystem φ π) (files : φ) (source target : π) :
    Nat → φ → Option Conversion → Prop where
  | unreadable {e : FileError} (read : fs.read files source = .error e) :
    Ending fs files source target 1 files none
  | malformed {content : Bytes} {m : Malformed} (read : fs.read files source = .ok content)
    (refused : convert (Utf8.decode content) = .error m) : Ending fs files source target 3 files none
  | unwritable {content : Bytes} {c : Conversion} {e : FileError}
    (read : fs.read files source = .ok content) (converted : convert (Utf8.decode content) = .ok c)
    (write : fs.write files target (Utf8.encode c.dbml) = .error e) :
    Ending fs files source target 1 files none
  | written {content : Bytes} {c : Conversion} {files' : φ}
    (read : fs.read files source = .ok content) (converted : convert (Utf8.decode content) = .ok c)
    (write : fs.write files target (Utf8.encode c.dbml) = .ok files') :
    Ending fs files source target 0 files' (some c)

/-- **A run ends in one way.** -/
theorem Ending.unique {fs : FileSystem φ π} {files left left' : φ} {source target : π} {n n' : Nat}
    {k k' : Option Conversion} (h : Ending fs files source target n left k)
    (h' : Ending fs files source target n' left' k') : n = n' ∧ left = left' ∧ k = k' := by
  -- two endings of different kinds disagree on a read, a conversion or a write
  cases h <;> cases h' <;> simp_all

/-- **What a run that crashes leaves behind**: all files as they were, or the target written. -/
inductive Ruin (fs : FileSystem φ π) (files : φ) (source target : π) : φ → Prop where
  | untouched : Ruin fs files source target files
  | written {content : Bytes} {c : Conversion} {files' : φ}
    (read : fs.read files source = .ok content) (converted : convert (Utf8.decode content) = .ok c)
    (write : fs.write files target (Utf8.encode c.dbml) = .ok files') :
    Ruin fs files source target files'

namespace Course

variable [Path π] {sys : System π σ} {fs : FileSystem φ π} {files : σ → φ} {style : Style}
  {source target : π} {s t : σ} {status : Status} {k : Option Conversion}

/-- **On streams that lead to no file** a run ends as it should, or crashes over a line that was not
taken. A crash leaves no file half written. -/
theorem ending_or_crashed (h : Course sys style source target s status k t)
    (hsys : sys.Over fs files) : Ending fs (files s) source target status.code (files t) k ∨
      status.code = 101 ∧ ¬ sys.TakesLines ∧ Ruin fs (files s) source target (files t) := by
  cases h with
  | crashed told refused =>
    rw [hsys.files_told told]
    exact .inr ⟨rfl, refused, .untouched⟩
  | unreadable told read failed ends =>
    rw [hsys.read_eq, hsys.files_told told] at read
    rw [hsys.files_told failed, hsys.files_told told]
    obtain rfl | ⟨rfl, hno⟩ := ends
    · exact .inl (.unreadable read)
    · exact .inr ⟨rfl, hno, .untouched⟩
  | malformed told read refused failed ends =>
    rw [hsys.read_eq, hsys.files_told told] at read
    rw [hsys.files_told failed, hsys.files_told told]
    obtain rfl | ⟨rfl, hno⟩ := ends
    · exact .inl (.malformed read refused)
    · exact .inr ⟨rfl, hno, .untouched⟩
  | unwritable told read converted warned write failed ends =>
    rw [hsys.read_eq, hsys.files_told told] at read
    obtain ⟨hwrite, hfiles⟩ := hsys.write_error write
    rw [hsys.files_told warned, hsys.files_told told] at hwrite hfiles
    rw [hsys.files_told failed, hfiles]
    obtain rfl | ⟨rfl, hno⟩ := ends
    · exact .inl (.unwritable read converted hwrite)
    · exact .inr ⟨rfl, hno, .untouched⟩
  | written told read converted warned write closing =>
    rw [hsys.read_eq, hsys.files_told told] at read
    have hwrite := hsys.write_ok write
    rw [hsys.files_told warned, hsys.files_told told, ← hsys.files_closing closing] at hwrite
    obtain rfl | ⟨rfl, hno⟩ := closing.endsAs
    · exact .inl (.written read converted hwrite)
    · exact .inr ⟨rfl, hno, .written read converted hwrite⟩

end Course

/-! ### Runs on files -/

namespace Outcome

/-- The outcome of a session that tells notices first. -/
def afterTelling (notices : List Notice) (o : Outcome φ π) : Outcome φ π :=
  { o with effects := notices.map .tell ++ o.effects }

theorem told_afterTelling (notices : List Notice) (o : Outcome φ π) :
    (o.afterTelling notices).told = notices ++ o.told := by
  induction notices with
  | nil => rfl
  | cons n ns ih => exact congrArg (n :: ·) ih

end Outcome

namespace Session

variable {fs : FileSystem φ π} {files : φ}

theorem run_tellAll (notices : List Notice) (rest : Session π) :
    run fs files (tellAll notices rest) = (run fs files rest).afterTelling notices := by
  induction notices with
  | nil => rfl
  | cons n ns ih => exact congrArg (Outcome.after (.tell n)) ih

theorem run_log (f : Log.Filter) (es : List Log.Event) (rest : Session π) :
    run fs files (log f es rest) =
      (run fs files rest).afterTelling ((es.filter f.shows).map fun e => .line e.text) := by
  unfold log
  induction es.filter f.shows with
  | nil => rfl
  | cons e es ih => exact congrArg (Outcome.after (.tell (.line e.text))) ih

end Session

namespace FileSystem

theorem recording_takesLines (fs : FileSystem φ π) : fs.recording.TakesLines :=
  ⟨fun _ _ => rfl, fun _ _ => rfl, fun _ _ => rfl⟩

theorem recording_over (fs : FileSystem φ π) : fs.recording.Over fs Prod.fst where
  read_eq _ _ := rfl
  write_eq s path content := by
    unfold recording
    dsimp only
    cases fs.write s.1 path content <;> rfl
  files_record _ _ := rfl
  files_tell _ _ := rfl
  files_print _ _ := rfl

end FileSystem

end MigrationDbml.Command
