import LivePage.Proofs.Page.RootAttributes

/-!
# Handing a configuration on to a page

A page reads its options from the attributes that an acceptable configuration sets.
They are those of the configuration, with one exception: the checks let an endpoint end
in white space, which does not count when it is read.
-/

namespace LivePage
namespace Config

open Page

/-! ## Acceptable configurations -/

theorem objection?_eq_none_iff {c : Config} :
    c.objection? = none ↔ ∀ check ∈ c.checks, check.1 = false := by
  simp [objection?]

theorem isWidth_of_acceptable {c : Config} (h : c.objection? = none) :
    Options.isWidth c.sidebar.width = true := by
  have hcheck := objection?_eq_none_iff.mp h
    (!Options.isWidth c.sidebar.width, .badWidth) (by simp [checks, sidebarChecks])
  simpa using hcheck

theorem isAbsolute_of_acceptable {c : Config} (h : c.objection? = none) :
    isAbsolute c.stream.endpoint = true := by
  have hcheck := objection?_eq_none_iff.mp h
    (!isAbsolute c.stream.endpoint, .relativeEndpoint) (by simp [checks, streamChecks])
  simpa using hcheck

/-! ## Reading back -/

/-- A document whose root has the attributes that a configuration sets. -/
def onto (c : Config) (d : Document) : Document :=
  c.attributes.foldl (fun d a => d.withRootAttribute a.1 a.2) d

theorem rootAttribute_onto (c : Config) (d : Document) :
    (c.onto d).rootAttribute Options.widthAttribute =
        some (String.ofList c.sidebar.width.text) ∧
      (c.onto d).rootAttribute Options.clampAttribute =
        some (flagText c.sidebar.clampToViewport) ∧
      (c.onto d).rootAttribute Options.endpointAttribute = some c.stream.endpoint := by
  simp [onto, attributes, Document.withRootAttribute, assign, Options.widthAttribute,
    Options.clampAttribute, Options.endpointAttribute]

theorem readFlag?_flagText (b : Bool) : Options.readFlag? (flagText b) = some b := by
  cases b <;> decide

/-- The options that a page reads from an acceptable configuration are those of the
configuration, just if its endpoint does not end in white space. -/
theorem ofDocument_onto {c : Config} (h : c.objection? = none) (d : Document) :
    (Options.ofDocument (c.onto d)).sidebar = c.sidebar ∧
      (Options.ofDocument (c.onto d)).liveReload.endpoint =
        String.ofList (Text.trim c.stream.endpoint.toList) ∧
      ((Options.ofDocument (c.onto d)).liveReload.endpoint = c.stream.endpoint ↔
        ∀ last ∈ c.stream.endpoint.toList.getLast?, Text.isBlank last = false) := by
  obtain ⟨hwidth, hclamp, hendpoint⟩ := rootAttribute_onto c d
  obtain ⟨path, hpath⟩ : ∃ path, c.stream.endpoint = String.ofList ('/' :: path) := by
    have hhead := of_decide_eq_true (isAbsolute_of_acceptable h)
    obtain ⟨path, hpath⟩ := List.head?_eq_some_iff.mp hhead
    exact ⟨path, by rw [← hpath, String.ofList_toList]⟩
  have hread : (Options.ofDocument (c.onto d)).liveReload.endpoint =
      String.ofList (Text.trim c.stream.endpoint.toList) := by
    simp only [Options.ofDocument, Options.ofAttributes, hendpoint, Option.bind_some]
    rw [hpath, Options.readEndpoint?_cons, String.toList_ofList]
    rfl
  refine ⟨?_, hread, ?_⟩
  · simp only [Options.ofDocument, Options.ofAttributes, hwidth, hclamp, Option.bind_some,
      Options.readWidth?_text (isWidth_of_acceptable h), readFlag?_flagText, Option.getD_some]
  · rw [hread, hpath, String.toList_ofList, ← Text.trim_cons_eq_self_iff (by decide)]
    exact String.ofList_inj

/-- Options other than those where nothing is set, with an endpoint that is not read as it is. -/
theorem ofDocument_onto_space_at_end :
    let c : Config :=
      { sidebar := { width := 240, clampToViewport := true }, stream := { endpoint := "/live " } }
    c.objection? = none ∧
      (Options.ofDocument (c.onto .empty)).sidebar = c.sidebar ∧
      (Options.ofDocument (c.onto .empty)).liveReload.endpoint =
        String.ofList (Text.trim c.stream.endpoint.toList) ∧
      ((Options.ofDocument (c.onto .empty)).liveReload.endpoint = c.stream.endpoint ↔
        ∀ last ∈ c.stream.endpoint.toList.getLast?, Text.isBlank last = false) := by
  intro c
  have h : c.objection? = none := by decide +kernel
  exact ⟨h, ofDocument_onto h .empty⟩

/-- An endpoint that ends in a space is acceptable, and a page reads another one. -/
theorem not_reads_back_of_space :
    ¬∀ c : Config, c.objection? = none → ∀ d : Document,
      (Options.ofDocument (c.onto d)).sidebar = c.sidebar ∧
        (Options.ofDocument (c.onto d)).liveReload.endpoint = c.stream.endpoint := by
  intro h
  have hread := (h { stream := { endpoint := "/a " } } (by decide +kernel) .empty).2
  revert hread
  decide +kernel

end Config
end LivePage
