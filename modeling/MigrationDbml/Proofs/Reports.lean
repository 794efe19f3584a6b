import MigrationDbml.Proofs.Contents
import MigrationDbml.Proofs.JsonReading
import MigrationDbml.Proofs.Runs
import MigrationDbml.Command.Directory.Pipes
import MigrationDbml.Proofs.Directories

/-!
# Reports on standard output

A run whose target does not lead to standard output puts its report there and nothing else
(`output_run`). A run that fails puts nothing there. The report is one that machines can read back
(`Reports`): nothing for people, one JSON document, or one line of fields.

* `Warning.ofJson?_toSortedJson`: a warning is read back from its object.
* `reports_summary`: the summary for machines is a report.
* `Course.output_eq`: what comes out in each course of a run.
-/

namespace MigrationDbml

/-! ## Warnings are read back -/

/-- The kind that a word stands for, with the value of the member for the keyword. -/
def WarningKind.ofTag? (tag : Text) (keyword : Option Json) : Option WarningKind :=
  if tag = "unsupported_id_feature".toList then some unsupportedId
  else if tag = "unsupported_type".toList then
    match keyword with
    | some (.str k) => some (unsupportedType k)
    | _ => none
  else none

/-- Reads a warning from the members of an object, in whatever order they stand. -/
def Warning.ofJson? : Json → Option Warning
  | .obj members =>
    match members.lookup "line".toList, members.lookup "kind".toList,
      members.lookup "source_line".toList with
    | some (.num line), some (.str tag), some (.str sourceLine) =>
      (WarningKind.ofTag? tag (members.lookup "keyword".toList)).map fun kind =>
        ⟨line, kind, sourceLine⟩
    | _, _, _ => none
  | _ => none

theorem Warning.ofJson?_toSortedJson (w : Warning) : ofJson? w.toSortedJson = some w := by
  obtain ⟨line, kind, sourceLine⟩ := w
  cases kind with
  | unsupportedId => rfl
  | unsupportedType keyword => rfl

/-- What is read back one by one is read back in a list. -/
theorem mapM_map_eq_some {α β : Type} {f : α → β} {g : β → Option α} (h : ∀ a, g (f a) = some a)
    (as : List α) : (as.map f).mapM g = some as := by
  induction as with
  | nil => rfl
  | cons a as ih => rw [List.map_cons, List.mapM_cons, h, ih]; rfl

theorem Warning.mapM_ofJson? (ws : List Warning) :
    (ws.map toSortedJson).mapM ofJson? = some ws :=
  mapM_map_eq_some ofJson?_toSortedJson ws

namespace Command

variable {π σ : Type}

/-! ## What standard output takes -/

/-- **Whether `output` is what standard output has taken.** It is apart from the error stream, and
it takes a line as a whole or not at all. -/
structure System.IsOutput (sys : System π σ) (output : σ → Bytes) : Prop where
  record_eq : ∀ s line, output (sys.record s line).2 = output s
  tell_eq : ∀ s notice, output (sys.tell s notice).2 = output s
  print_ok : ∀ s line, (sys.print s line).1 = .ok () →
    output (sys.print s line).2 = output s ++ Utf8.encode (line ++ ['\n'])
  print_error : ∀ s line e, (sys.print s line).1 = .error e → output (sys.print s line).2 = output s

/-- Whether what is written to a path does not come out on standard output. -/
def System.LeadsElsewhere (sys : System π σ) (output : σ → Bytes) (path : π) : Prop :=
  ∀ s content, output (sys.write s path content).2 = output s

/-- **The members of a JSON report.** -/
structure IsReport (source target : Text) (c : Conversion) (members : List (Text × Json)) : Prop where
  names_nodup : (members.map Prod.fst).Nodup
  source : members.lookup "source".toList = some (.str source)
  target : members.lookup "target".toList = some (.str target)
  linesRead : members.lookup "lines_read".toList = some (.num c.linesRead)
  linesEmitted : members.lookup "lines_emitted".toList = some (.num c.linesEmitted)
  warnings : ∃ items, members.lookup "warnings".toList = some (.arr items) ∧
    items.mapM Warning.ofJson? = some c.warnings

/-- **What standard output holds about a conversion**, in each mode. -/
def Reports (source target : Text) (c : Conversion) : Mode → Bytes → Prop
  | .human, report => report = []
  | .json, report => ∃ members, report = Utf8.encode (Json.pretty (.obj members) ++ ['\n']) ∧
      Json.read? (Json.pretty (.obj members)) = some (.obj members) ∧
      IsReport source target c members
  | .plain, report => '\t' ∉ target → '\n' ∉ target →
      ∃ line, report = Utf8.encode (line ++ ['\n']) ∧ '\n' ∉ line ∧
        line.splitOn '\t' = [target, Text.ofNat c.linesRead, Text.ofNat c.linesEmitted,
          Text.ofNat c.warnings.length]

theorem isReport_report (source target : Text) (c : Conversion) :
    ∃ members, Style.report source target c = .obj members ∧ IsReport source target c members := by
  refine ⟨_, rfl, ?_, rfl, rfl, rfl, rfl, _, rfl, Warning.mapM_ofJson? c.warnings⟩
  have hnames : ["lines_emitted".toList, "lines_read".toList, "source".toList, "target".toList,
      "warnings".toList].Nodup := by decide +kernel
  exact hnames

theorem not_mem_intercalate {sep d : Char} (hsep : d ≠ sep) {fields : List Text}
    (h : ∀ t ∈ fields, d ∉ t) : d ∉ [sep].intercalate fields := by
  induction fields with
  | nil => exact List.not_mem_nil
  | cons t ts ih =>
    have ht : d ∉ t := h t List.mem_cons_self
    have hrest := ih fun u hu => h u (List.mem_cons_of_mem t hu)
    cases ts with
    | nil => rw [List.intercalate_singleton]; exact ht
    | cons u us =>
      rw [List.intercalate_cons_cons]
      exact List.not_mem_append (List.not_mem_append ht (by simpa using hsep)) hrest

/-- **The summary for machines is a report**, with a line feed behind it. -/
theorem reports_summary {s : Style} {source target : Text} {c : Conversion} {line : Text}
    (hmode : s.mode ≠ .human) (hsummary : s.summary? source target c = some line) :
    Reports source target c s.mode (Utf8.encode (line ++ ['\n'])) := by
  unfold Style.summary? at hsummary
  cases hm : s.mode with
  | human => exact absurd hm hmode
  | json =>
    rw [hm] at hsummary
    obtain ⟨members, hreport, his⟩ := isReport_report source target c
    cases hsummary
    rw [hreport]
    exact ⟨members, rfl, Json.read?_pretty _, his⟩
  | plain =>
    rw [hm] at hsummary
    cases hsummary
    intro htab hfeed
    have hfields : ∀ d : Char, d.isDigit = false → d ∉ target → ∀ t ∈ [target,
        Text.ofNat c.linesRead, Text.ofNat c.linesEmitted, Text.ofNat c.warnings.length], d ∉ t := by
      intro d hd ht t hmem
      simp only [List.mem_cons, List.not_mem_nil, or_false] at hmem
      rcases hmem with rfl | rfl | rfl | rfl
      · exact ht
      · exact Text.not_mem_ofNat hd _
      · exact Text.not_mem_ofNat hd _
      · exact Text.not_mem_ofNat hd _
    exact ⟨_, rfl, not_mem_intercalate (by decide) (hfields '\n' (by decide) hfeed),
      List.splitOn_intercalate '\t' (hfields '\t' (by decide) htab) (List.cons_ne_nil _ _)⟩

section Output

variable {sys : System π σ} {output : σ → Bytes} {s t : σ}

theorem System.IsOutput.told_eq (h : sys.IsOutput output) (htold : sys.Told s t) :
    output t = output s :=
  htold.eq_of h.record_eq h.tell_eq

/-- **What comes out behind a written target is the report**, or nothing if the run crashes over
it. -/
theorem Closing.output_eq {style : Style} {source target : Text} {c : Conversion} {status : Status}
    (hout : sys.IsOutput output) (h : Closing sys style source target c s status t) :
    ∃ report, output t = output s ++ report ∧ (status.code ≠ 0 → report = []) ∧
      (status.code = 0 → Reports source target c style.mode report) := by
  cases h with
  | told human told ends =>
    refine ⟨[], by rw [hout.told_eq told, List.append_nil], fun _ => rfl, fun _ => ?_⟩
    rw [human]
    rfl
  | printed machine summary print =>
    exact ⟨_, hout.print_ok _ _ print, fun hcode => absurd rfl hcode,
      fun _ => reports_summary machine summary⟩
  | refused print told =>
    refine ⟨[], ?_, fun _ => rfl, fun hcode => by cases hcode⟩
    rw [hout.told_eq told, hout.print_error _ _ _ print, List.append_nil]

variable [Path π]

/-- **What comes out in a run on two paths.** -/
theorem Course.output_eq {style : Style} {source target : π} {status : Status}
    {k : Option Conversion} (hout : sys.IsOutput output)
    (htarget : sys.LeadsElsewhere output target) (h : Course sys style source target s status k t) :
    (status.code ≠ 0 → output t = output s) ∧
      (status.code = 0 → ∃ u content c, sys.Told s u ∧ sys.read u source = .ok content ∧
        convert (Utf8.decode content) = .ok c ∧ ∃ report,
          Reports (Path.text source) (Path.text target) c style.mode report ∧
          output t = output s ++ report) := by
  have hfails : ∀ {p : Prop}, status.code ≠ 0 → output t = output s →
      (status.code ≠ 0 → output t = output s) ∧ (status.code = 0 → p) :=
    fun hcode heq => ⟨fun _ => heq, fun hzero => absurd hzero hcode⟩
  cases h with
  | crashed told refused => exact hfails (by decide) (hout.told_eq told)
  | unreadable told read failed ends =>
    exact hfails (ends.code_ne_zero (by decide)) (by rw [hout.told_eq failed, hout.told_eq told])
  | malformed told read refused failed ends =>
    exact hfails (ends.code_ne_zero (by decide)) (by rw [hout.told_eq failed, hout.told_eq told])
  | unwritable told read converted warned write failed ends =>
    refine hfails (ends.code_ne_zero (by decide)) ?_
    rw [hout.told_eq failed, htarget, hout.told_eq warned, hout.told_eq told]
  | written told read converted warned write closing =>
    obtain ⟨report, houtput, hnone, hreports⟩ := closing.output_eq hout
    rw [htarget, hout.told_eq warned, hout.told_eq told] at houtput
    constructor
    · intro hcode
      rw [houtput, hnone hcode, List.append_nil]
    · intro hcode
      exact ⟨_, _, _, told, read, converted, report, hreports hcode, houtput⟩

/-- **Standard output carries the report and nothing else**, when the target does not lead there. A
run that fails puts nothing on it. A run that succeeds has converted its source, and puts the report
of its mode there, whatever else it tells. -/
theorem output_run (hout : sys.IsOutput output) (s : σ) (w : Surroundings) {a : Arguments π}
    (htarget : ∀ target ∈ a.target, sys.LeadsElsewhere output target) :
    let o := (Session.ofAccepted w a).runOn sys s
    (o.1.code ≠ 0 → output o.2 = output s) ∧
      (o.1.code = 0 → ∃ source target t content c, a.paths? = some (source, target) ∧
        sys.Told s t ∧ sys.read t source = .ok content ∧ convert (Utf8.decode content) = .ok c ∧
        ∃ report, Reports (Path.text source) (Path.text target) c a.mode report ∧
          output o.2 = output s ++ report) := by
  intro o
  cases hpaths : a.paths? with
  | none =>
    obtain ⟨t, htold, hleft, hends⟩ := Session.exists_told_of_paths?_eq_none sys s w hpaths
    have hcode : o.1.code ≠ 0 := hends.code_ne_zero (by decide)
    have houtput : output o.2 = output s := by
      rw [hleft]
      exact hout.told_eq htold
    exact ⟨fun _ => houtput, fun hzero => absurd hzero hcode⟩
  | some p =>
    obtain ⟨k, hcourse⟩ := Session.exists_course sys s w hpaths
    obtain ⟨-, hsome⟩ := Arguments.paths?_eq_some_iff.1 hpaths
    obtain ⟨hfails, hsucceeds⟩ := hcourse.output_eq hout (htarget p.2 hsome)
    refine ⟨hfails, fun hzero => ?_⟩
    obtain ⟨t, content, c, htold, hread, hconvert, hreport⟩ := hsucceeds hzero
    exact ⟨p.1, p.2, t, content, c, rfl, htold, hread, hconvert, hreport⟩

end Output

/-! ## Pipes -/

namespace Piped

theorem isOutput (full : Bool) : (system full).IsOutput Piped.output where
  record_eq s line := by
    cases full <;> rfl
  tell_eq s notice := by
    cases full <;> rfl
  print_ok _ _ _ := rfl
  print_error _ _ _ h := by cases h

theorem files_told {full : Bool} {s t : Piped} (h : (system full).Told s t) : t.files = s.files :=
  h.eq_of (f := Piped.files) (fun _ _ => by cases full <;> rfl) fun _ _ => by cases full <;> rfl

/-- A plain name leads to no stream. -/
theorem leadsElsewhere {name : Text} (h : Directory.IsPlain name) (full : Bool) :
    (system full).LeadsElsewhere Piped.output name := by
  intro s content
  have hsent : s.files.sentTo .output (.write name content) = [] := by
    unfold Directory.sentTo
    dsimp only
    rw [Directory.device?_of_isPlain s.files h]
    rfl
  unfold system
  dsimp only
  cases s.files.writeFile name content with
  | error e => rfl
  | ok d => exact (congrArg (s.output ++ ·) hsent).trans (List.append_nil _)

end Piped

/-- A run for machines with a quote, a control character and a letter outside of ASCII in a warning,
and with everything logged. -/
theorem output_run_of_json :
    let path := "schema.rb".toList
    let line := "t.money \"é\x01\"".toList
    let w : Surroundings := ⟨none, none, some "trace".toList, false, false⟩
    let a : Arguments := ⟨some path, some "t".toList, some .json, 0, false, false⟩
    let s : Piped := ⟨[(path, Utf8.encode (line ++ "\nend\n".toList))], [], []⟩
    let o := (Session.ofAccepted w a).runOn (Piped.system false) s
    o.1.code = 0 ∧ o.2.errors ≠ [] ∧
      ∃ c members, c.warnings = [⟨1, .unsupportedType "t.money".toList, line⟩] ∧
        o.2.output = Utf8.encode (Json.pretty (.obj members) ++ ['\n']) ∧
        Json.read? (Json.pretty (.obj members)) = some (.obj members) ∧
        IsReport path "t".toList c members := by
  intro path line w a s o
  have hcode : o.1.code = 0 := by decide +kernel
  have herrors : o.2.errors ≠ [] := by decide +kernel
  have hplain : Directory.IsPlain "t".toList := ⟨by decide, by decide, by decide, by decide⟩
  have htarget : ∀ target ∈ a.target, (Piped.system false).LeadsElsewhere Piped.output target := by
    intro target ht
    cases ht
    exact Piped.leadsElsewhere hplain false
  obtain ⟨source, target, t, content, c, hpaths, htold, hread, hconvert, report, hreports, houtput⟩ :=
    (output_run (Piped.isOutput false) s w htarget).2 hcode
  cases hpaths
  have hcontent : Directory.readFile [(path, Utf8.encode (line ++ "\nend\n".toList))] path =
      .ok (Utf8.encode (line ++ "\nend\n".toList)) := by
    decide +kernel
  have hfiles : t.files.readFile path = .ok content := hread
  rw [Piped.files_told htold] at hfiles
  have hwarnings : (convert (Utf8.decode (Utf8.encode (line ++ "\nend\n".toList)))).map
      Conversion.warnings = .ok [⟨1, .unsupportedType "t.money".toList, line⟩] := by
    decide +kernel
  rw [← Except.ok.inj (hfiles.symm.trans hcontent), hconvert] at hwarnings
  obtain ⟨members, rfl, hdocument, hmembers⟩ := hreports
  subst o
  exact ⟨hcode, herrors, c, members, Except.ok.inj hwarnings, houtput, hdocument, hmembers⟩

/-- The one way for a run for people to send anything: its target leads to standard output. -/
theorem output_run_of_output_device :
    let path := "schema.rb".toList
    let w : Surroundings := ⟨none, none, none, false, false⟩
    let args := [path, "/dev/stdout".toList]
    let s : Piped := ⟨[(path, Utf8.encode "end\n".toList)], [], []⟩
    let o := (Session.ofArguments w args).runOn (Piped.system false) s
    Arguments.parse w.noColor args =
        .ok ⟨some path, some "/dev/stdout".toList, none, 0, false, false⟩ ∧
      o.1.code = 0 ∧ o.2.output = Utf8.encode "\x7d\n".toList ∧
      Utf8.encode "\x7d\n".toList ≠ [] := by
  decide +kernel

end Command

end MigrationDbml
