import Mathlib.Tactic
import XPathValues.Proofs.Function.Constructors
import XPathValues.Proofs.QName

/-!
# Making qualified names and taking them apart

A qualified name comes from a text, whose qualifier is resolved, or from a namespace and a text. In
both cases its own text is what it was made from, and its parts put that text together again. A
text that is read may have white space around it and needs a binding; the function `QName` takes
the text as it is, needs no binding, and takes the empty namespace as none.
-/

namespace XPathValues

namespace QName

/-- What the function `QName` makes of a namespace and a text. A qualifier needs a namespace. -/
structure IsMadeFrom (name : QName) (uri text : String) : Prop where
  lexical : name.Lexical
  toText_eq : name.toText = text
  uri_eq : name.uri = if uri = "" then none else some uri
  qualified : ∀ qualifier ∈ name.qualifier, uri ≠ ""

theorem IsMadeFrom.getD_uri {name : QName} {uri text : String} (h : name.IsMadeFrom uri text) :
    name.uri.getD "" = uri := by
  rw [h.uri_eq]
  split_ifs with hempty
  · exact hempty.symm
  · rfl

end QName

namespace AtomicValue

variable {given : String} {bindings : Bindings} {v : AtomicValue}

theorem read_qname_eq_ok_iff :
    read .qname given bindings = .ok v ↔
      ∃ name : QName, v = qname name ∧ name.Lexical ∧ name.toText = Text.collapse given ∧
        name.ResolvesIn bindings := by
  change (QName.read (Text.collapse given) bindings).map qname = .ok v ↔ _
  constructor
  · intro h
    obtain ⟨name, hname, rfl⟩ := exists_of_map_eq_ok h
    exact ⟨name, rfl, QName.read_eq_ok_iff.mp hname⟩
  · rintro ⟨name, rfl, hname⟩
    rw [QName.read_eq_ok_iff.mpr hname]
    rfl

/-- The text of a name that was read holds no white space, so it is read again as it is. -/
theorem read_text_of_read_qname (h : read .qname given bindings = .ok v) :
    read .qname v.text bindings = .ok v := by
  obtain ⟨name, rfl, hlexical, _, hresolves⟩ := read_qname_eq_ok_iff.mp h
  exact read_qname_eq_ok_iff.mpr ⟨name, rfl, hlexical, hlexical.collapse_toText.symm, hresolves⟩

theorem read_qname_unbound_iff :
    (∃ e, read .qname given bindings = .error e ∧ e.code = .FONS0004) ↔
      ∃ qualifier part, (⟨none, some qualifier, part⟩ : QName).Lexical ∧
        qualifier ++ ":" ++ part = Text.collapse given ∧ bindings.resolve? qualifier = none := by
  change (∃ e, (QName.read (Text.collapse given) bindings).map qname = .error e ∧ _) ↔ _
  constructor
  · rintro ⟨e, h, hcode⟩
    obtain ⟨-, rfl⟩ | ⟨qualifier, part, hlexical, htext, hunbound, -⟩ :=
      QName.read_eq_error_iff.mp (eq_error_of_map h)
    · cases hcode
    · exact ⟨qualifier, part, hlexical, htext, hunbound⟩
  · rintro ⟨qualifier, part, hlexical, htext, hunbound⟩
    have hread := QName.read_eq_error_iff.mpr
      (.inr ⟨qualifier, part, hlexical, htext, hunbound, rfl⟩)
    exact ⟨.unboundQualifier qualifier, by rw [hread]; rfl, rfl⟩

end AtomicValue

namespace FunctionBody

variable {uri text : String} {result : Sequence}

theorem makeQName_eq_ok_iff (context : Context) :
    makeQName context [.single (.string uri), .single (.string text)] = .ok result ↔
      ∃ name : QName, name.IsMadeFrom uri text ∧ result = .single (.qname name) := by
  have huri : textOrEmpty (argument [.single (.string uri), .single (.string text)] 0) = uri := rfl
  have htext : textOrEmpty (argument [.single (.string uri), .single (.string text)] 1) = text :=
    rfl
  simp only [makeQName, huri, htext, String.isEmpty_iff]
  constructor
  · intro h
    split at h
    · cases h
    · next qualifier part hsplit =>
      by_cases hrefused :
          (qualifier.isSome && (if uri = "" then none else some uri : Option String).isNone) = true
      · rw [if_pos hrefused] at h
        cases h
      rw [if_neg hrefused] at h
      obtain rfl := Except.ok.inj h
      obtain ⟨hlexical, htext⟩ := (QName.splitQName?_eq_some_iff
        ⟨if uri = "" then none else some uri, qualifier, part⟩).mp hsplit
      refine ⟨_, ⟨hlexical, htext, rfl, ?_⟩, rfl⟩
      rintro _ rfl huri
      simp [huri] at hrefused
  · rintro ⟨⟨_, qualifier, part⟩, ⟨hlexical, htext, rfl, hqualified⟩, rfl⟩
    have hsplit := (QName.splitQName?_eq_some_iff _).mpr ⟨hlexical, htext⟩
    simp only [hsplit]
    cases qualifier with
    | none => simp
    | some qualifier => simp [hqualified qualifier rfl]

end FunctionBody

namespace Library

open AtomicValue FunctionBody

variable {uri text : String} {result : Sequence}

theorem evaluate_QName_eq_ok_iff (context : Context) :
    standard.evaluate (.inFunctions "QName") [.single (string uri), .single (string text)] context =
        .ok result ↔
      ∃ name : QName, name.IsMadeFrom uri text ∧ result = .single (qname name) := by
  have huri : (ParameterType.optional .string).Accepts (.single (string uri)) :=
    ParameterType.accepts_single rfl (AtomicKind.derivesFrom_refl _)
  have htext : (ParameterType.single .string).Accepts (.single (string text)) :=
    ParameterType.accepts_single rfl (AtomicKind.derivesFrom_refl _)
  have hevaluate := evaluate_of_accepts
    (.standard "QName" [.optional .string, .single .string] makeQName) context
    (by simp [Function.mem_standardFunctions_iff, Function.nameFunctions]) rfl
    (.cons huri (.cons htext .nil))
  rw [← makeQName_eq_ok_iff context]
  exact Eq.congr_left hevaluate

theorem evaluate_ofQName {part : String} {f : QName → Sequence} (context : Context) (name : QName)
    (hmem : Function.standard part [.optional .qname] (ofQName f) ∈ Function.nameFunctions) :
    standard.evaluate (.inFunctions part) [.single (qname name)] context = .ok (f name) := by
  have hstandard : Function.standard part [.optional .qname] (ofQName f) ∈
      Function.standardFunctions := by
    rw [Function.mem_standardFunctions_iff]
    tauto
  exact evaluate_map context hstandard (AtomicKind.derivesFrom_refl _) rfl

/-- What the functions on qualified names give for a name: its namespace, where the empty one is
none, and the parts that its text is put together from. -/
structure TakenApart (context : Context) (name : QName) (uri text : String) : Prop where
  namespaceUri : standard.evaluate (.inFunctions "namespace-uri-from-QName")
    [.single (qname name)] context = .ok (.single (anyURI uri))
  parts :
    (standard.evaluate (.inFunctions "prefix-from-QName") [.single (qname name)] context = .ok [] ∧
      standard.evaluate (.inFunctions "local-name-from-QName") [.single (qname name)] context =
        .ok (.single (string text))) ∨
    ∃ qualifier part, qualifier ++ ":" ++ part = text ∧
      standard.evaluate (.inFunctions "prefix-from-QName") [.single (qname name)] context =
        .ok (.single (string qualifier)) ∧
      standard.evaluate (.inFunctions "local-name-from-QName") [.single (qname name)] context =
        .ok (.single (string part))

theorem takenApart (context : Context) (name : QName) :
    TakenApart context name (name.uri.getD "") name.toText where
  namespaceUri :=
    evaluate_ofQName (f := Sequence.namespaceOf) context name (by simp [Function.nameFunctions])
  parts := by
    have hqualifier : standard.evaluate (.inFunctions "prefix-from-QName")
        [.single (qname name)] context = .ok (.qualifierOf name) :=
      evaluate_ofQName context name (by simp [Function.nameFunctions])
    have hpart : standard.evaluate (.inFunctions "local-name-from-QName")
        [.single (qname name)] context = .ok (.ofText name.localPart) :=
      evaluate_ofQName (f := fun x => .ofText x.localPart) context name
        (by simp [Function.nameFunctions])
    obtain ⟨uri, _ | qualifier, part⟩ := name
    · exact .inl ⟨hqualifier, hpart⟩
    · exact .inr ⟨qualifier, part, rfl, hqualifier, hpart⟩

/-- A name that is read is in the namespace that its qualifier is bound to, by the bindings or else
as a reserved one, and in none without a qualifier; it is read again from its own text. Reading
finds no namespace if and only if the text has a qualifier that is not bound. The function `QName`
gives a name for every text that spells one, if a namespace is given or no qualifier; the text of
that name is the given one, and its namespace and its parts can be taken from it again. -/
theorem qualifiedNames_recompose (bindings : Bindings) (context : Context) :
    (∀ given v, read .qname given bindings = .ok v →
        ∃ name : QName, v = qname name ∧
          (∀ qualifier ∈ name.qualifier, ∃ uri, name.uri = some uri ∧
            (bindings.lookup? qualifier = some uri ∨
              bindings.lookup? qualifier = none ∧ Namespace.reserved? qualifier = some uri)) ∧
          (name.qualifier = none → name.uri = none) ∧
          read .qname v.text bindings = .ok v) ∧
      (∀ given, (∃ e, read .qname given bindings = .error e ∧ e.code = .FONS0004) ↔
        ∃ qualifier part, Text.isNCName qualifier.toList = true ∧
          Text.isNCName part.toList = true ∧ qualifier ++ ":" ++ part = Text.collapse given ∧
          bindings.lookup? qualifier = none ∧ Namespace.reserved? qualifier = none) ∧
      (∀ uri text, (∃ result, standard.evaluate (.inFunctions "QName")
            [.single (string uri), .single (string text)] context = .ok result) ↔
        ∃ qualifier part, Text.splitQName? text = some (qualifier, part) ∧
          (qualifier.isSome → uri ≠ "")) ∧
      ∀ uri text result, standard.evaluate (.inFunctions "QName")
          [.single (string uri), .single (string text)] context = .ok result →
        ∃ name : QName, result = .single (qname name) ∧ (qname name).text = text ∧
          TakenApart context name uri text := by
  refine ⟨?_, ?_, ?_, ?_⟩
  · intro given v h
    obtain ⟨name, rfl, _, _, hresolves⟩ := read_qname_eq_ok_iff.mp h
    refine ⟨name, rfl, ?_, ?_, read_text_of_read_qname h⟩
    · rintro qualifier hqualifier
      obtain part | ⟨part, huri⟩ := hresolves
      · cases hqualifier
      · obtain rfl := Option.some.inj hqualifier
        exact ⟨_, rfl, by simpa [Bindings.resolve?, Option.or_eq_some_iff] using huri⟩
    · rintro hnone
      obtain part | ⟨part, huri⟩ := hresolves
      · rfl
      · cases hnone
  · intro given
    rw [read_qname_unbound_iff]
    constructor
    · rintro ⟨qualifier, part, hlexical, htext, hunbound⟩
      exact ⟨qualifier, part, hlexical.qualifier _ rfl, hlexical.localPart, htext,
        Option.or_eq_none_iff.mp hunbound⟩
    · rintro ⟨qualifier, part, hqualifier, hpart, htext, hunbound⟩
      exact ⟨qualifier, part, ⟨by simpa using hqualifier, hpart⟩, htext,
        Option.or_eq_none_iff.mpr hunbound⟩
  · intro uri text
    simp only [evaluate_QName_eq_ok_iff]
    constructor
    · rintro ⟨_, name, hmade, rfl⟩
      refine ⟨name.qualifier, name.localPart,
        (QName.splitQName?_eq_some_iff name).mpr ⟨hmade.lexical, hmade.toText_eq⟩, fun hsome => ?_⟩
      exact hmade.qualified _ (Option.get_mem hsome)
    · rintro ⟨qualifier, part, hsplit, hqualified⟩
      obtain ⟨hlexical, htext⟩ := (QName.splitQName?_eq_some_iff
        ⟨if uri = "" then none else some uri, qualifier, part⟩).mp hsplit
      exact ⟨.single (qname _), _,
        ⟨hlexical, htext, rfl, fun _ h => hqualified (Option.isSome_of_mem h)⟩, rfl⟩
  · intro uri text result h
    obtain ⟨name, hmade, rfl⟩ := (evaluate_QName_eq_ok_iff context).mp h
    refine ⟨name, rfl, hmade.toText_eq, ?_⟩
    have happart := takenApart context name
    rwa [hmade.getD_uri, hmade.toText_eq] at happart

/-- A binding hides the reserved one of the same qualifier, and `q` has no binding. A name without a
qualifier is made in the empty namespace, and one with a qualifier where it has no binding. -/
theorem qualifiedNames_recompose_shadowed :
    let reading : ClockReading := ⟨.startOfDay ⟨2000, 1, 1, by decide⟩, .utc⟩
    let context := Context.Builder.start.build reading
    let bindings := Bindings.ofList [("xs", "urn:x")]
    let hidden : AtomicValue := qname ⟨some "urn:x", some "xs", "a"⟩
    (read .qname " xs:a\n" bindings = .ok hidden ∧ read .qname hidden.text bindings = .ok hidden) ∧
      (∃ e, read .qname "q:a" bindings = .error e ∧ e.code = .FONS0004) ∧
      (∃ name : QName, standard.evaluate (.inFunctions "QName")
          [.single (string ""), .single (string "a")] context = .ok (.single (qname name)) ∧
        (qname name).text = "a" ∧ TakenApart context name "" "a") ∧
      ∃ name : QName, standard.evaluate (.inFunctions "QName")
          [.single (string "urn:u"), .single (string "q:a")] context = .ok (.single (qname name)) ∧
        (qname name).text = "q:a" ∧ TakenApart context name "urn:u" "q:a" := by
  intro reading context bindings hidden
  obtain ⟨hread, hunbound, hmade, hapart⟩ := qualifiedNames_recompose bindings context
  have hhidden : read .qname " xs:a\n" bindings = .ok hidden := by decide +kernel
  obtain ⟨_, _, _, _, hagain⟩ := hread _ _ hhidden
  refine ⟨⟨hhidden, hagain⟩, (hunbound "q:a").mpr ⟨"q", "a", by decide +kernel⟩, ?_, ?_⟩
  · obtain ⟨result, hresult⟩ := (hmade "" "a").mpr ⟨none, "a", by decide +kernel⟩
    obtain ⟨name, rfl, hname⟩ := hapart _ _ _ hresult
    exact ⟨name, hresult, hname⟩
  · obtain ⟨result, hresult⟩ := (hmade "urn:u" "q:a").mpr ⟨some "q", "a", by decide +kernel⟩
    obtain ⟨name, rfl, hname⟩ := hapart _ _ _ hresult
    exact ⟨name, hresult, hname⟩

end Library

end XPathValues
