import Attestation.Proofs.Observer.Notices
import Attestation.Proofs.Report.Refusal
import Mathlib.Data.List.Dedup
import Mathlib.Data.List.Induction

namespace Attestation

def Event.check? : Event → Option Check
  | .checkFailed _ diagnostic _ => some diagnostic.check
  | .checkPassed _ check => some check
  | _ => none

namespace Report

def trace (attempt : Attempt) (signals : List Signal) : List Event :=
  ((Observed.mk (new attempt) []).recordAll Observer.logging signals).kept

variable (attempt : Attempt) (signals : List Signal)

end Report

namespace Report

variable (attempt : Attempt) (signals : List Signal)

example :
    let o := (Observed.mk (new 0) []).recordAll Observer.logging
      [.pass .ofac, .failure .ofac .empty .empty, .pass .dsc, .failure .ofac .empty .empty,
        .pass .dsc]
    (o.sealWith Observer.logging (some ⟨"user", "null"⟩) .lenient).2 =
      [.checkPassed 0 .ofac, .checkFailed 0 ⟨0, .ofac, .empty, .empty⟩ false,
        .checkPassed 0 .dsc, .checkFailed 0 ⟨1, .ofac, .empty, .empty⟩ true,
        .reportNotSealed 0 .unprovenBinding] := by
  decide

end Report

end Attestation
