import LivePage.Config.Basic
import LivePage.Proofs.Binary64.DecimalText

/-!
# Reading the attributes of a root

What is read from an attribute is what is left of its value without the white space at
its ends.  Whatever text the attributes hold, the options that a page reads from them are
acceptable, and each of them follows its own attribute.
-/

namespace LivePage

namespace Page
namespace Options

theorem readEndpoint?_cons (path : List Char) :
    readEndpoint? (String.ofList ('/' :: path)) =
      some (String.ofList (Text.trim ('/' :: path))) := by
  have htrim := Text.trim_cons (c := '/') (by decide) path
  rw [readEndpoint?, String.toList_ofList, htrim]
  rfl

theorem readWidth?_eq_some {value : String} {x : Binary64}
    (hread : Binary64.ofText? (Text.trim value.toList) = some x) (hx : isWidth x = true) :
    readWidth? value = some x := by
  rw [readWidth?, hread, Option.filter_some, if_pos hx]

theorem readWidth?_text {x : Binary64} (hx : isWidth x = true) :
    readWidth? (String.ofList x.text) = some x := by
  refine readWidth?_eq_some ?_ hx
  rw [String.toList_ofList,
    Text.trim_eq_self_of_forall fun _ => Binary64.isBlank_of_mem_text]
  exact x.ofText?_text

/-! ## What an attribute means -/

/-- A value without the white space at its ends. -/
def trimmed (value : String) : List Char :=
  Text.trim value.toList

/-- The text is the number `x`, which a sidebar can have as its width. -/
def IsWidthText (cs : List Char) (x : Binary64) : Prop :=
  Binary64.ofText? cs = some x ∧ isWidth x = true

/-- The text is the truth value `b`. -/
def IsFlagText (cs : List Char) (b : Bool) : Prop :=
  cs = (Config.flagText b).toList

/-- The text is the endpoint `s`, which is a path from the root of the server. -/
def IsEndpointText (cs : List Char) (s : String) : Prop :=
  cs = s.toList ∧ Config.isAbsolute s = true

theorem readWidth?_eq_some_iff {value : String} {x : Binary64} :
    readWidth? value = some x ↔ IsWidthText (trimmed value) x := by
  rw [readWidth?, Option.filter_eq_some_iff, IsWidthText, trimmed]

theorem readFlag?_eq_some_iff {value : String} {b : Bool} :
    readFlag? value = some b ↔ IsFlagText (trimmed value) b := by
  unfold readFlag? IsFlagText trimmed
  generalize Text.trim value.toList = word
  constructor
  · intro h
    dsimp only at h
    split_ifs at h with htrue hfalse
    · cases h
      exact htrue
    · cases h
      exact hfalse
  · rintro rfl
    cases b <;> rfl

theorem readEndpoint?_eq_some_iff {value s : String} :
    readEndpoint? value = some s ↔ IsEndpointText (trimmed value) s := by
  unfold readEndpoint? IsEndpointText Config.isAbsolute trimmed
  generalize Text.trim value.toList = cs
  constructor
  · intro h
    split at h
    · cases h
      simp
    · cases h
  · rintro ⟨rfl, hs⟩
    obtain ⟨path, hpath⟩ := List.head?_eq_some_iff.mp (of_decide_eq_true hs)
    rw [hpath]
    exact congrArg some (by rw [← hpath, String.ofList_toList])

/-- An option follows an attribute: it is what the trimmed value means, or the default if
there is no value or it means nothing. -/
def Follows {α : Type} (means : List Char → α → Prop) (default : α)
    (written : Option String) (x : α) : Prop :=
  (∃ value, written = some value ∧ means (trimmed value) x) ∨
    (x = default ∧ ∀ value y, written = some value → ¬means (trimmed value) y)

theorem follows_getD {α : Type} {means : List Char → α → Prop} {read? : String → Option α}
    (hread : ∀ value x, read? value = some x ↔ means (trimmed value) x)
    (default : α) (written : Option String) :
    Follows means default written ((written.bind read?).getD default) := by
  cases written with
  | none => exact Or.inr ⟨rfl, fun _ _ h => nomatch h⟩
  | some value =>
      cases hx : read? value with
      | some x =>
          refine Or.inl ⟨value, rfl, ?_⟩
          rw [Option.bind_some, hx]
          exact (hread value x).mp hx
      | none =>
          refine Or.inr ⟨by rw [Option.bind_some, hx]; rfl, ?_⟩
          rintro value' y ⟨⟩ hy
          rw [(hread value y).mpr hy] at hx
          cases hx

theorem follows_ofDocument (d : Document) :
    Follows IsWidthText defaultWidth (d.rootAttribute widthAttribute)
        (ofDocument d).sidebar.width ∧
      Follows IsFlagText false (d.rootAttribute clampAttribute)
        (ofDocument d).sidebar.clampToViewport ∧
      Follows IsEndpointText LiveReload.defaultEndpoint (d.rootAttribute endpointAttribute)
        (ofDocument d).liveReload.endpoint :=
  ⟨follows_getD (fun _ _ => readWidth?_eq_some_iff) _ _,
    follows_getD (fun _ _ => readFlag?_eq_some_iff) _ _,
    follows_getD (fun _ _ => readEndpoint?_eq_some_iff) _ _⟩

/-! ## White space around a value -/

theorem bind_congr_of_trimmed {α : Type} {means : List Char → α → Prop}
    {read? : String → Option α}
    (hread : ∀ value x, read? value = some x ↔ means (trimmed value) x)
    {written written' : Option String} (h : written.map trimmed = written'.map trimmed) :
    written.bind read? = written'.bind read? := by
  cases written with
  | none =>
      cases written' with
      | none => rfl
      | some value' => cases h
  | some value =>
      cases written' with
      | none => cases h
      | some value' =>
          ext x
          rw [Option.bind_some, Option.bind_some, hread, hread, Option.some.inj h]

/-- The options depend on the trimmed values of the attributes alone. -/
theorem ofAttributes_congr {root root' : String → Option String}
    (h : ∀ name, (root name).map trimmed = (root' name).map trimmed) :
    ofAttributes root = ofAttributes root' := by
  have hwidth : (root widthAttribute).bind readWidth? =
      (root' widthAttribute).bind readWidth? :=
    bind_congr_of_trimmed (fun _ _ => readWidth?_eq_some_iff) (h _)
  have hclamp : (root clampAttribute).bind readFlag? =
      (root' clampAttribute).bind readFlag? :=
    bind_congr_of_trimmed (fun _ _ => readFlag?_eq_some_iff) (h _)
  have hendpoint : (root endpointAttribute).bind readEndpoint? =
      (root' endpointAttribute).bind readEndpoint? :=
    bind_congr_of_trimmed (fun _ _ => readEndpoint?_eq_some_iff) (h _)
  rw [ofAttributes, ofAttributes, hwidth, hclamp, hendpoint]

theorem map_trimmed_assign (root : String → Option String) (name : String)
    {value value' : String} (h : trimmed value = trimmed value') (name' : String) :
    (assign root name (some value) name').map trimmed =
      (assign root name (some value') name').map trimmed := by
  unfold assign
  split_ifs
  · exact congrArg some h
  · rfl

theorem ofDocument_withRootAttribute_blanks (d : Document) (name : String)
    (value : List Char) {before after : List Char}
    (hblanks : ∀ c ∈ before ++ after, Text.isBlank c = true) :
    ofDocument (d.withRootAttribute name (String.ofList (before ++ value ++ after))) =
      ofDocument (d.withRootAttribute name (String.ofList value)) := by
  apply ofAttributes_congr
  apply map_trimmed_assign
  rw [trimmed, trimmed, String.toList_ofList, String.toList_ofList,
    Text.trim_append_blanks value hblanks]

/-! ## What a page reads -/

theorem Follows.of_forall {α : Type} {means : List Char → α → Prop} {default : α}
    {written : Option String} {x : α} (h : Follows means default written x) {p : α → Prop}
    (hmeans : ∀ value y, means (trimmed value) y → p y) (hdefault : p default) : p x := by
  rcases h with ⟨value, -, hx⟩ | ⟨rfl, -⟩
  · exact hmeans value x hx
  · exact hdefault

theorem isWidth_ofDocument (d : Document) : isWidth (ofDocument d).sidebar.width = true :=
  (follows_ofDocument d).1.of_forall (p := fun x => isWidth x = true) (fun _ _ hx => hx.2)
    (by decide +kernel)

/-- What a configuration asks of an endpoint, and no white space at its ends. -/
theorem endpoint_ofDocument (d : Document) :
    Config.isAbsolute (ofDocument d).liveReload.endpoint = true ∧
      trimmed (ofDocument d).liveReload.endpoint =
        (ofDocument d).liveReload.endpoint.toList := by
  refine (follows_ofDocument d).2.2.of_forall
    (p := fun s => Config.isAbsolute s = true ∧ trimmed s = s.toList) ?_ (by decide +kernel)
  rintro value s ⟨hs, habsolute⟩
  refine ⟨habsolute, ?_⟩
  rw [trimmed, ← hs]
  exact Text.trim_trim value.toList

/-- A configuration with the given options of a page. -/
def toConfig (o : Options) : Config where
  sidebar := o.sidebar
  stream := { endpoint := o.liveReload.endpoint }

theorem objection?_toConfig_ofDocument (d : Document) :
    (ofDocument d).toConfig.objection? = none := by
  have hwidth := isWidth_ofDocument d
  obtain ⟨habsolute, -⟩ := endpoint_ofDocument d
  have hne : (ofDocument d).liveReload.endpoint ≠ "" := by
    intro hempty
    rw [hempty] at habsolute
    exact absurd habsolute (by decide)
  simp [Config.objection?, Config.checks, Config.serverChecks, Config.sidebarChecks,
    Config.streamChecks, Config.reconnectChecks, Reconnect.standard, toConfig, hwidth,
    habsolute, hne]

/-- What a page reads from its root is acceptable, and each part follows its own attribute. -/
structure IsWellRead (d : Document) : Prop where
  /-- The options pass the checks of a configuration. -/
  acceptable : (ofDocument d).toConfig.objection? = none
  endpoint_trimmed : trimmed (ofDocument d).liveReload.endpoint =
    (ofDocument d).liveReload.endpoint.toList
  reconnect : (ofDocument d).liveReload.reconnect = .standard
  width : Follows IsWidthText defaultWidth (d.rootAttribute widthAttribute)
    (ofDocument d).sidebar.width
  clamp : Follows IsFlagText false (d.rootAttribute clampAttribute)
    (ofDocument d).sidebar.clampToViewport
  endpoint : Follows IsEndpointText LiveReload.defaultEndpoint
    (d.rootAttribute endpointAttribute) (ofDocument d).liveReload.endpoint
  width_congr : ∀ e : Document,
    e.rootAttribute widthAttribute = d.rootAttribute widthAttribute →
      (ofDocument e).sidebar.width = (ofDocument d).sidebar.width
  clamp_congr : ∀ e : Document,
    e.rootAttribute clampAttribute = d.rootAttribute clampAttribute →
      (ofDocument e).sidebar.clampToViewport = (ofDocument d).sidebar.clampToViewport
  endpoint_congr : ∀ e : Document,
    e.rootAttribute endpointAttribute = d.rootAttribute endpointAttribute →
      (ofDocument e).liveReload.endpoint = (ofDocument d).liveReload.endpoint
  /-- White space around the value of an attribute makes no difference to any option. -/
  blanks : ∀ (name : String) (before value after : List Char),
    (∀ c ∈ before ++ after, Text.isBlank c = true) →
      ofDocument (d.withRootAttribute name (String.ofList (before ++ value ++ after))) =
        ofDocument (d.withRootAttribute name (String.ofList value))
  /-- Every width that is acceptable can be set by its text. -/
  width_text : ∀ x : Binary64, isWidth x = true →
    (ofDocument (d.withRootAttribute widthAttribute (String.ofList x.text))).sidebar.width = x

/-- Whatever the attributes of a root hold, the options read from them are acceptable. -/
theorem isWellRead (d : Document) : IsWellRead d where
  acceptable := objection?_toConfig_ofDocument d
  endpoint_trimmed := (endpoint_ofDocument d).2
  reconnect := rfl
  width := (follows_ofDocument d).1
  clamp := (follows_ofDocument d).2.1
  endpoint := (follows_ofDocument d).2.2
  width_congr e he := by rw [ofDocument, ofAttributes, he]; rfl
  clamp_congr e he := by rw [ofDocument, ofAttributes, he]; rfl
  endpoint_congr e he := by rw [ofDocument, ofAttributes, he]; rfl
  blanks name before value after := ofDocument_withRootAttribute_blanks d name value
  width_text x hx := by
    have hread : ((d.withRootAttribute widthAttribute (String.ofList x.text)).rootAttribute
        widthAttribute).bind readWidth? = some x :=
      readWidth?_text hx
    rw [ofDocument, ofAttributes, hread]
    rfl

end Options
end Page
end LivePage
