import ReadmeAudit.Check.Addresses
import ReadmeAudit.Proofs.Audit
import ReadmeAudit.Proofs.Url

/-!
# Which addresses are requested

The check of the addresses requests every address of a README that is to be checked. So it requests
a scheme without anything after it exactly if punctuation is all that follows the scheme in the
README.
-/

namespace ReadmeAudit.Check

open Audit

theorem note_outcome (event : Event) (trace : Trace) :
  (note event).outcome trace = (.ok (), { trace with events := event :: trace.events })
  := rfl

theorem forM_request_outcome (urls : List String) (trace : Trace) :
  (urls.forM request).outcome trace
    = (.ok (), { trace with requests := urls.reverse ++ trace.requests })
  := by
  induction urls generalizing trace with
  | nil => rfl
  | cons url urls ih =>
      change (request url >>= fun _ => urls.forM request).outcome trace = _
      rw [outcome_bind]
      change (urls.forM request).outcome { trace with requests := url :: trace.requests } = _
      rw [ih, List.reverse_cons, List.append_assoc]
      rfl

/-- The addresses of a README that are to be checked are requested one after the other. -/
theorem addresses_requests (readme : Readme) (respond : String → Url.Response) (trace : Trace) :
  ((addresses readme respond).outcome trace).2.requests
    = ((Url.find readme.source).filter Url.isChecked).reverse ++ trace.requests
  := by
  rw [addresses]
  split
  · next hempty =>
    rw [List.isEmpty_iff.mp hempty]
    rfl
  · rw [outcome_bind, note_outcome]
    dsimp only
    rw [outcome_bind, forM_request_outcome]
    rfl

/-- What is found in a text is found in itself unless the text has a bare scheme, and the check of
the addresses requests the bare schemes of a README. -/
theorem find_find_iff_and_requests (text : String) :
  ((∀ url ∈ Url.find text, Url.find url = [url])
      ↔ ∀ scheme ∈ Url.schemes, ¬ Url.IsBareIn scheme text)
    ∧ ∀ (readme : Readme) (respond : String → Url.Response), ∀ scheme ∈ Url.schemes,
      (String.ofList scheme ∈ ((addresses readme respond).outcome .empty).2.requests
        ↔ Url.IsBareIn scheme readme.source)
  := by
  constructor
  · constructor
    · intro h scheme hscheme hbare
      have hmem := (Url.ofList_mem_find_iff hscheme).mpr hbare
      apply (Url.find_eq_singleton_iff hmem).mp (h _ hmem)
      rw [String.toList_ofList]
      apply hscheme
    · intro h url hurl
      apply (Url.find_eq_singleton_iff hurl).mpr
      intro hscheme
      apply h url.toList hscheme
      apply (Url.ofList_mem_find_iff hscheme).mp
      rw [String.ofList_toList]
      apply hurl
  · intro readme respond scheme hscheme
    rw [addresses_requests, ← Url.ofList_mem_find_iff hscheme]
    simp [Trace.empty, Url.isChecked_scheme hscheme]

/-- Three points after a scheme: the scheme is found and requested, but nothing is found in it. -/
theorem find_points_after_scheme :
  Url.find "See http://... there" = ["http://"] ∧ Url.find "http://" = []
    ∧ ((addresses (.read "See http://... there" .auto []) fun _ => .status 200).outcome
      .empty).2.requests = ["http://"]
  := by
  have hfind : Url.find "See http://... there" = ["http://"] := by decide +kernel
  use hfind, by decide +kernel
  have hsource : (Readme.read "See http://... there" .auto []).source
      = "See http://... there" := rfl
  rw [addresses_requests, hsource, hfind]
  decide +kernel

end ReadmeAudit.Check
