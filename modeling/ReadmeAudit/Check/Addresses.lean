import ReadmeAudit.Trace
import ReadmeAudit.Url

/-!
# The check of the addresses

Every address in a README is requested, and has to be answered with the status 200.
-/

namespace ReadmeAudit.Check

/-- The problem that an answer to the request of an address shows. -/
def addressProblem? (url : String) : Url.Response → Option Problem
  | .failed reason => some (.failedRequest url reason)
  | .status code => if code = 200 then none else some (.badStatus url code)

/-- The check of the addresses of a README, with the answers to requests. -/
def addresses (readme : Readme) (respond : String → Url.Response) : Audit (List Problem) := do
  let urls := (Url.find readme.source).filter Url.isChecked
  if urls.isEmpty then return []
  Audit.note (.addressesFound urls.length)
  urls.forM Audit.request
  return urls.filterMap fun url => addressProblem? url (respond url)

end ReadmeAudit.Check
