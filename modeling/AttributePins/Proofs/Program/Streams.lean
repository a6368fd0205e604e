import AttributePins.Program
import Mathlib.Data.String.Basic

/-! Which stream a query writes to. Everything before the findings, that is log records,
notices about settings and skipped paths, and files that could not be read, stays off the
standard output, so there a query shows its findings and nothing else. -/
namespace AttributePins

namespace Output

/-- Whether an output stays off the standard output. -/
def aside : Output → Bool
  | .log _ | .complaint _ => true
  | _ => false

theorem stdout_append (colours : Colours) (first second : List Output) :
    stdout colours (first ++ second) = stdout colours first ++ stdout colours second := by
  rw [stdout, List.map_append, String.join_append]
  rfl

theorem stdout_of_aside {outputs : List Output} (quiet : ∀ output ∈ outputs, output.aside = true)
    (colours : Colours) : stdout colours outputs = "" := by
  induction outputs with
  | nil => rfl
  | cons output rest ih =>
    have first : output.onStdout colours = "" := by
      have aside := quiet output List.mem_cons_self
      cases output with
      | log | complaint => rfl
      | line | help => contradiction
    have others := ih fun other member => quiet other (List.mem_cons_of_mem output member)
    rw [stdout, List.map_cons, String.join_cons, first, ← stdout, others]
    rfl

theorem aside_of_mem_map_log {records : List Log.Record} {output : Output}
    (member : output ∈ records.map .log) : output.aside = true := by
  obtain ⟨record, _, rfl⟩ := List.mem_map.mp member
  rfl

end Output

namespace Report

theorem failureLines_aside (verbose : Bool) (failures : List LoadFailure) :
    ∀ output ∈ failureLines verbose failures, output.aside = true := by
  intro output member
  unfold failureLines at member
  split at member
  · obtain ⟨failure, _, rfl⟩ := List.mem_map.mp member
    rfl
  · split at member
    · contradiction
    · obtain rfl := List.mem_singleton.mp member
      rfl

theorem status_code (report : Report) :
    report.status.code = if report.failures = [] ∧ report.findings.missing = false then 0 else 1 := by
  by_cases read : report.failures = [] <;> cases missing : report.findings.missing <;>
    simp [status, read, missing, ExitStatus.code]

end Report

theorem Project.load_aside {fs : FileSystem} {common : CommonArguments} {project : Project}
    {notices : List Output} (loaded : Project.load fs common = .ok (project, notices)) :
    ∀ output ∈ notices, output.aside = true := by
  unfold Project.load at loaded
  dsimp only at loaded
  split at loaded
  · contradiction
  · obtain ⟨-, rfl⟩ := Prod.mk.inj (Except.ok.inj loaded)
    intro output member
    rcases List.mem_append.mp member with (front | skipped)
    · rcases List.mem_append.mp front with (settings | searched)
      · unfold settingsNotice at settings
        split at settings
        · contradiction
        · obtain rfl := List.mem_singleton.mp settings
          rfl
      · exact Output.aside_of_mem_map_log searched
    · unfold skippedNotice at skipped
      split at skipped
      · contradiction
      · obtain rfl := List.mem_singleton.mp skipped
        rfl

namespace Program

section Query

variable {fs : FileSystem} {common : CommonArguments} {project : Project}
  {notices : List Output}

theorem query_of_load (loaded : Project.load fs common = .ok (project, notices))
    (findings : Project.Indexed → Findings) :
    query fs common findings =
      finish (notices ++ (project.indexed fs).log.map .log) common.verbose
        ⟨findings (project.indexed fs), (project.indexed fs).sources.failures⟩ fs := by
  rw [query, loaded]

theorem query_stdout (loaded : Project.load fs common = .ok (project, notices))
    (findings : Project.Indexed → Findings) (colours : Colours) :
    Output.stdout colours (query fs common findings).outputs =
      Output.stdout colours (Report.findingLines (findings (project.indexed fs))) := by
  rw [query_of_load loaded, finish, Report.lines, Output.stdout_append, Output.stdout_append,
    Output.stdout_append, Output.stdout_of_aside (Project.load_aside loaded),
    Output.stdout_of_aside (fun _ member => Output.aside_of_mem_map_log member),
    Output.stdout_of_aside (Report.failureLines_aside _ _)]
  simp only [String.empty_append]

theorem query_allOutputs_stdout (loaded : Project.load fs common = .ok (project, notices))
    (findings : Project.Indexed → Findings) (colours : Colours) :
    Output.stdout colours (Run.allOutputs (query fs common findings)) =
      Output.stdout colours (Report.findingLines (findings (project.indexed fs))) := by
  rw [← query_stdout loaded, query_of_load loaded]
  rfl

theorem query_status_code (loaded : Project.load fs common = .ok (project, notices))
    (findings : Project.Indexed → Findings) :
    (Run.status (query fs common findings)).code =
      if (project.indexed fs).sources.failures = [] ∧
        (findings (project.indexed fs)).missing = false then 0 else 1 := by
  rw [query_of_load loaded]
  exact Report.status_code _

end Query

end Program
end AttributePins
