import ReleaseBundle.Toolchain.Search

/-!
# Running the toolchain

The toolchain is found, started in the project root and waited for. Only a toolchain that cannot be
found or started is a failure; how the build ended is the result.
-/

namespace ReleaseBundle.Toolchain

/-- Runs a command in a directory. -/
def build (host : Host) (c : Command) (directory : Path) : Job Unavailable BuildResult := do
  let unavailable (reason : StartReason) : Unavailable := ⟨c.program, reason⟩
  let executable ←
    Job.mapError unavailable (Job.inspect fun d => find d host.searchPath c.program)
  Job.log (.programResolved executable)
  Job.log (.programStarted c.text directory)
  let status ←
    (host.run ⟨executable, c.args, directory⟩).mapError fun fault => unavailable (.refused fault)
  let result := BuildResult.ofStatus c status
  Job.log (if result.isSuccess then .buildSucceeded else .buildFailed result.diagnostic)
  return result

end ReleaseBundle.Toolchain
