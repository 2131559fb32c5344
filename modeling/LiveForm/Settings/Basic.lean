import LiveForm.Decode.Basic
import LiveForm.Form.Submission
import LiveForm.Host.Basic

/-!
# Settings

The settings of a host: one table of switches for loading schemas and one for submitting forms.
Every switch and both tables have defaults, which are those of the options that they stand for.
-/

namespace LiveForm

/-- The settings of a host. -/
structure Settings where
  loader : LoaderOptions := {}
  submission : SubmitOptions := {}
  deriving DecidableEq, Repr, Inhabited

namespace Settings

def host (s : Settings) : Host := .new s.loader s.submission

namespace Attr

def requireTitle : Attribute Bool :=
  .defaulted "require_title" ({} : LoaderOptions).requireTitle .boolean

def rejectCycles : Attribute Bool :=
  .defaulted "reject_dependency_cycles" ({} : LoaderOptions).rejectCycles .boolean

def includeDisabled : Attribute Bool :=
  .defaulted "include_disabled" ({} : SubmitOptions).includeDisabled .boolean

end Attr

def decodeLoader : Decoder LoaderOptions := fun value => do
  let r ← Record.enter "LoaderSettings" [Attr.requireTitle.check, Attr.rejectCycles.check] value
  let requireTitle ← r.take 0 Attr.requireTitle
  let rejectCycles ← r.take 1 Attr.rejectCycles
  r.finish
  return { requireTitle, rejectCycles }

def decodeSubmission : Decoder SubmitOptions := fun value => do
  let r ← Record.enter "SubmissionSettings" [Attr.includeDisabled.check] value
  let includeDisabled ← r.take 0 Attr.includeDisabled
  r.finish
  return { includeDisabled }

namespace Attr

def loader : Attribute LoaderOptions := .defaulted "loader" {} decodeLoader

def submission : Attribute SubmitOptions := .defaulted "submission" {} decodeSubmission

end Attr

def decode : Decoder Settings := fun value => do
  let r ← Record.enter "FormSettings" [Attr.loader.check, Attr.submission.check] value
  let loader ← r.take 0 Attr.loader
  let submission ← r.take 1 Attr.submission
  r.finish
  return { loader, submission }

end Settings

end LiveForm
