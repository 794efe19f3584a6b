import Mathlib.Control.Monad.Basic
import MigrationDbml.Command.Directory.Pipes
import MigrationDbml.Proofs.Directories
import MigrationDbml.Proofs.Runs

/-!
# Options and surroundings

The options of a command line and the surroundings of the command say how a run
reports, and nothing else, as long as the streams take every line and lead to no file. Two
command lines that name the same paths then end with the same exit code and leave the same
files (`run_eq_of_paths_eq`), and which these are is said by `Ending`.

Without that they do decide more (`run_ne_of_streams`): a warning that cannot be told keeps
the target from being written, and a summary can go into the target.
-/

namespace MigrationDbml.Command

variable {π σ φ : Type} {fs : FileSystem φ π} {files : φ} {source target : π}

theorem Arguments.paths?_eq_none_iff (a : Arguments π) : a.paths? = none ↔ a.pathCount < 2 := by
  unfold paths? pathCount
  cases a.source <;> cases a.target <;> simp

/-- What a written file holds, when the file system keeps its promise about it. -/
theorem Ending.read_of_replaces {n : Nat} {left : φ} {c : Conversion} {apart : π → Prop}
    (h : Ending fs files source target n left (some c)) (hfs : fs.Replaces target apart) :
    fs.read left target = .ok (Utf8.encode c.dbml) ∧
      ∀ p, apart p → fs.read left p = fs.read files p := by
  cases h with
  | written read converted write => exact ⟨hfs.read_written write, hfs.read_apart write⟩

section Runs

variable [Path π] {sys : System π σ} {view : σ → φ} {a : Arguments π}

/-- Arguments with fewer than two paths fail and leave all files as they are. -/
theorem run_of_paths?_eq_none (hsys : sys.Over fs view) (htakes : sys.TakesLines) (s : σ)
    (w : Surroundings) (hnone : a.paths? = none) :
    ((Session.ofAccepted w a).runOn sys s).1.code = 1 ∧
      view ((Session.ofAccepted w a).runOn sys s).2 = view s := by
  obtain ⟨t, htold, hleft, hstatus | ⟨-, hno⟩⟩ :=
    Session.exists_told_of_paths?_eq_none sys s w hnone
  · rw [hstatus, hleft, hsys.files_told htold]
    exact ⟨rfl, rfl⟩
  · exact absurd htakes hno

/-- Arguments with two paths have an ending that these paths decide. -/
theorem ending_of_paths?_eq_some (hsys : sys.Over fs view) (htakes : sys.TakesLines) (s : σ)
    (w : Surroundings) (hsome : a.paths? = some (source, target)) :
    ∃ k, Ending fs (view s) source target ((Session.ofAccepted w a).runOn sys s).1.code
      (view ((Session.ofAccepted w a).runOn sys s).2) k := by
  obtain ⟨k, hcourse⟩ := Session.exists_course sys s w hsome
  obtain hending | ⟨-, hno, -⟩ := hcourse.ending_or_crashed hsys
  · exact ⟨k, hending⟩
  · exact absurd htakes hno

/-- **Options and surroundings decide nothing but the report**, on streams that take every line and
lead to no file. Runs on the same files and paths end with the same exit code and leave the same
files. With fewer than two paths the run fails and no file changes. With two, the run ends as
`Ending` says, and what it wrote is the conversion. -/
theorem run_eq_of_paths_eq (hsys : sys.Over fs view) (htakes : sys.TakesLines) {s s' : σ}
    (hfiles : view s = view s') (w w' : Surroundings) {a a' : Arguments π}
    (hpaths : a.paths? = a'.paths?) :
    let o := (Session.ofAccepted w a).runOn sys s
    let o' := (Session.ofAccepted w' a').runOn sys s'
    o.1.code = o'.1.code ∧ view o.2 = view o'.2 ∧
      (a.pathCount < 2 → o.1.code = 1 ∧ view o.2 = view s) ∧
      ∀ source target, a.paths? = some (source, target) →
        ∃ k, Ending fs (view s) source target o.1.code (view o.2) k ∧
          ∀ c, k = some c → ∀ apart, fs.Replaces target apart →
            fs.read (view o.2) target = .ok (Utf8.encode c.dbml) ∧
              ∀ p, apart p → fs.read (view o.2) p = fs.read (view s) p := by
  intro o o'
  have hfew : a.paths? = none → o.1.code = 1 ∧ view o.2 = view s :=
    run_of_paths?_eq_none hsys htakes s w
  have hboth : o.1.code = o'.1.code ∧ view o.2 = view o'.2 := by
    cases hp : a.paths? with
    | none =>
      obtain ⟨hcode, hleft⟩ := hfew hp
      obtain ⟨hcode', hleft'⟩ := run_of_paths?_eq_none hsys htakes s' w' (hpaths ▸ hp)
      exact ⟨hcode.trans hcode'.symm, hleft.trans (hfiles.trans hleft'.symm)⟩
    | some p =>
      obtain ⟨k, hending⟩ := ending_of_paths?_eq_some hsys htakes s w hp
      obtain ⟨k', hending'⟩ := ending_of_paths?_eq_some hsys htakes s' w' (hpaths ▸ hp)
      rw [← hfiles] at hending'
      obtain ⟨hcode, hleft, -⟩ := hending.unique hending'
      exact ⟨hcode, hleft⟩
  refine ⟨hboth.1, hboth.2, fun hcount => hfew (a.paths?_eq_none_iff.2 hcount), ?_⟩
  intro source target hsome
  obtain ⟨k, hending⟩ := ending_of_paths?_eq_some hsys htakes s w hsome
  refine ⟨k, hending, ?_⟩
  rintro c rfl apart hreplaces
  exact hending.read_of_replaces hreplaces

end Runs

/-- A file whose name and content are no UTF-8 is converted in place, once for people and once with
other options in other surroundings. -/
theorem run_eq_of_paths_eq_of_in_place :
    let fs : FileSystem (Bytes → Option Bytes) Bytes := .table
    let path : Bytes := [0x66, 0xFF]
    let content := Utf8.encode "t.text \"é".toList ++ [0xE2, 0x82] ++ Utf8.encode "\"\nend\n".toList
    let files : Bytes → Option Bytes := fun p => if p = path then some content else none
    let w : Surroundings := ⟨none, none, none, false, false⟩
    let w' : Surroundings := ⟨some "true".toList, none, some "trace".toList, true, true⟩
    let a : Arguments Bytes := ⟨some path, some path, none, 0, false, false⟩
    let a' : Arguments Bytes := ⟨some path, some path, some .json, 2, false, true⟩
    let o := (Session.ofAccepted w a).runOn fs.recording (files, [])
    let o' := (Session.ofAccepted w' a').runOn fs.recording (files, [])
    o.1.code = 0 ∧ o.1.code = o'.1.code ∧ o.2.1 = o'.2.1 ∧
      fs.read o.2.1 path = .ok (Utf8.encode "  é\uFFFD text\n\x7d\n".toList) ∧
      ∀ p, p ≠ path → fs.read o.2.1 p = fs.read files p := by
  intro fs path content files w w' a a' o o'
  obtain ⟨hcode, hleft, -, hending⟩ := run_eq_of_paths_eq fs.recording_over fs.recording_takesLines
    (s := (files, [])) rfl w w' (show a.paths? = a'.paths? from rfl)
  obtain ⟨k, hk, hreplaced⟩ := hending path path rfl
  have hread : fs.read files path = .ok content := by decide +kernel
  have hconvert : convert (Utf8.decode content) =
      .ok ⟨2, ["  é\uFFFD text".toList, ['\x7d']], []⟩ := by
    decide +kernel
  have hdbml : Conversion.dbml ⟨2, ["  é\uFFFD text".toList, ['\x7d']], []⟩ =
      "  é\uFFFD text\n\x7d\n".toList := by
    decide +kernel
  obtain ⟨hzero, -, rfl⟩ := hk.unique (.written hread hconvert rfl)
  have hkept := hreplaced _ rfl _ (FileSystem.table_replaces path)
  rw [hdbml] at hkept
  subst o o'
  exact ⟨hzero, hcode, hleft, hkept⟩

/-- Streams decide more. When the error stream has no room, a run with a warning crashes before the
target is written, and a quiet one writes it. When the target leads to the output, it is left with
the summary of a run for machines behind the conversion. -/
theorem run_ne_of_streams :
    let source := "s.rb".toList
    let shape : Directory := [(source, Utf8.encode "t.geometry \"shape\"\n".toList)]
    let closing : Directory := [(source, Utf8.encode "end\n".toList)]
    let w : Surroundings := ⟨none, none, some "off".toList, false, false⟩
    let args := [source, "t".toList]
    let quiet := "-q".toList :: args
    let plain := ["--format".toList, "plain".toList, source, "/dev/stdout".toList]
    let o := (Session.ofArguments w args).runOn (Piped.system true) ⟨shape, [], []⟩
    let o' := (Session.ofArguments w quiet).runOn (Piped.system true) ⟨shape, [], []⟩
    let p := (Session.ofArguments w plain).runOn (Piped.system false) ⟨closing, [], []⟩
    (Arguments.parse none args).map Arguments.paths? = .ok (some (source, "t".toList)) ∧
      (Arguments.parse none quiet).map Arguments.paths? = .ok (some (source, "t".toList)) ∧
      o.1.code = 101 ∧ o.2.files = shape ∧ o'.1.code = 0 ∧ o'.2.files.length = 2 ∧
      (Arguments.parse none plain).map Arguments.paths? = .ok (some (source, "/dev/stdout".toList)) ∧
      convert "end\n".toList = .ok ⟨1, [['\x7d']], []⟩ ∧ p.1.code = 0 ∧
      p.2 = ⟨closing, Utf8.encode "\x7d\n/dev/stdout\t1\t1\t0\n".toList, []⟩ := by
  decide +kernel

end MigrationDbml.Command
