import Mathlib.Tactic
import XPathValues.Context
import XPathValues.Proofs.Bindings

/-!
# Runs of the context builder

A context comes from a finite sequence of settings. A setting of the zone has an effect only if its
offset is one that a lexical form can give, and a binding of `xml` has none. Of the settings that
have an effect, the last one of each thing counts, and settings of different things can be
exchanged.
-/

namespace XPathValues

theorem Timezone.ofSeconds?_eq_some_iff {seconds : ℤ} {zone : Timezone} :
    ofSeconds? seconds = some zone ↔ zone.seconds = seconds := by
  obtain ⟨offset, hbounded⟩ := zone
  unfold ofSeconds?
  split_ifs with h
  · simp [eq_comm]
  · exact iff_of_false (by simp) fun heq => h (heq ▸ hbounded)

theorem Namespace.lookup?_ofList_reserved (qualifier : String) :
    (Bindings.ofList reserved).lookup? qualifier = reserved? qualifier :=
  Bindings.lookup?_ofList (by decide)

namespace Context.Builder

inductive Setting where
  | zoneMinutes (minutes : Int)
  | zone (offset : Timezone)
  | now (reading : ClockReading)
  | functionNamespace (uri : Option String)
  | binding (qualifier uri : String)

inductive Subject where
  | zone
  | now
  | functionNamespace
  | binding (qualifier : String)
deriving DecidableEq

namespace Setting

def apply (builder : Builder) : Setting → Builder
  | zoneMinutes minutes => builder.withZoneMinutes minutes
  | zone offset => builder.withZone offset
  | now reading => builder.withNow reading
  | functionNamespace uri => builder.withFunctionNamespace uri
  | binding qualifier uri => builder.withNamespace qualifier uri

def subject : Setting → Subject
  | zoneMinutes _ | zone _ => .zone
  | now _ => .now
  | functionNamespace _ => .functionNamespace
  | binding qualifier _ => .binding qualifier

/-- The offset that the call gives, in seconds. -/
def offset? : Setting → Option ℤ
  | zoneMinutes minutes => some (minutes * 60)
  | zone offset => some offset.seconds
  | _ => none

/-- The zone of that offset, if a lexical form can give it. -/
def zone? (setting : Setting) : Option Timezone :=
  (setting.offset?.bind Timezone.ofSeconds?).filter fun zone => zone.Lexical

def boundTo? (qualifier : String) : Setting → Option String
  | binding other uri => if other = qualifier then some uri else none
  | _ => none

theorem zone?_zoneMinutes (minutes : ℤ) :
    (zoneMinutes minutes).zone? = Timezone.ofMinutes? minutes := by
  ext zone
  simp [zone?, offset?, Option.filter_eq_some_iff, Timezone.ofSeconds?_eq_some_iff,
    Timezone.ofMinutes?_eq_some_iff]

theorem zone?_zone (zone : Timezone) :
    (Setting.zone zone).zone? = if zone.Lexical then some zone else none := by
  have hseconds : Timezone.ofSeconds? zone.seconds = some zone :=
    Timezone.ofSeconds?_eq_some_iff.mpr rfl
  simp [zone?, offset?, hseconds, Option.filter_some]

end Setting

def run (settings : List Setting) : Builder :=
  settings.foldl Setting.apply start

variable {builder : Builder} {setting : Setting}

theorem apply_of_zone (h : setting.subject = .zone) :
    setting.apply builder =
      { builder with implicitZone := setting.zone?.getD builder.implicitZone } := by
  cases setting with
  | zoneMinutes minutes =>
    change builder.withZoneMinutes minutes = _
    rw [Setting.zone?_zoneMinutes, withZoneMinutes]
    cases Timezone.ofMinutes? minutes <;> rfl
  | zone zone =>
    change builder.withZone zone = _
    rw [Setting.zone?_zone, withZone_eq]
    split_ifs <;> rfl
  | _ => cases h

theorem implicitZone_apply (builder : Builder) (setting : Setting) :
    (setting.apply builder).implicitZone = setting.zone?.getD builder.implicitZone := by
  by_cases h : setting.subject = .zone
  · rw [apply_of_zone h]
  · cases setting with
    | zoneMinutes minutes => exact absurd rfl h
    | zone zone => exact absurd rfl h
    | now reading => rfl
    | functionNamespace uri => rfl
    | binding qualifier uri =>
      change (builder.withNamespace qualifier uri).implicitZone = _
      unfold withNamespace
      split_ifs <;> rfl

/-- An offset that no lexical form can give changes nothing, so one that a lexical form can give
stays one. -/
theorem lexical_apply (h : builder.implicitZone.Lexical) (setting : Setting) :
    (setting.apply builder).implicitZone.Lexical := by
  rw [implicitZone_apply]
  cases hzone : setting.zone? with
  | none => exact h
  | some zone => exact of_decide_eq_true (Option.filter_eq_some_iff.mp hzone).2

theorem lookup?_withNamespace (builder : Builder) (other uri qualifier : String) :
    (builder.withNamespace other uri).namespaces.lookup? qualifier =
      if other = qualifier ∧ qualifier ≠ "xml" then some uri
      else builder.namespaces.lookup? qualifier := by
  unfold withNamespace
  split_ifs with hother hbound hbound
  · exact absurd (hbound.1.symm.trans hother) hbound.2
  · rfl
  · rw [Bindings.lookup?_insert, if_pos hbound.1.symm]
  · refine (Bindings.lookup?_insert ..).trans (if_neg ?_)
    rintro rfl
    exact hbound ⟨rfl, hother⟩

theorem lookup?_apply (builder : Builder) (setting : Setting) (qualifier : String) :
    (setting.apply builder).namespaces.lookup? qualifier =
      (if qualifier = "xml" then none else setting.boundTo? qualifier).or
        (builder.namespaces.lookup? qualifier) := by
  cases setting with
  | binding other uri =>
    refine (lookup?_withNamespace builder other uri qualifier).trans ?_
    by_cases hxml : qualifier = "xml"
    · simp [hxml]
    · by_cases hother : other = qualifier <;> simp [hxml, hother, Setting.boundTo?]
  | zoneMinutes minutes | zone zone => rw [apply_of_zone rfl]; simp [Setting.boundTo?]
  | now reading | functionNamespace uri => simp [Setting.boundTo?]; rfl

/-- What each setting either sets or leaves is set by the last one that does. -/
theorem view_foldl_apply {β : Type} (view : Builder → β) (set? : Setting → Option β)
    (h : ∀ builder setting,
      view (Setting.apply builder setting) = (set? setting).getD (view builder))
    (settings : List Setting) (builder : Builder) :
    view (settings.foldl Setting.apply builder) =
      (settings.filterMap set?).getLast?.getD (view builder) := by
  induction settings generalizing builder with
  | nil => rfl
  | cons setting rest ih =>
    rw [List.foldl_cons, ih, h, List.filterMap_cons]
    cases set? setting with
    | none => rfl
    | some x => rw [List.getLast?_cons]; rfl

theorem implicitZone_run (settings : List Setting) :
    (run settings).implicitZone = (settings.filterMap Setting.zone?).getLast?.getD .utc :=
  view_foldl_apply _ _ implicitZone_apply settings start

theorem lexical_foldl (settings : List Setting) (h : builder.implicitZone.Lexical) :
    (settings.foldl Setting.apply builder).implicitZone.Lexical := by
  induction settings generalizing builder with
  | nil => exact h
  | cons setting rest ih => exact ih (lexical_apply h setting)

theorem lexical_run (settings : List Setting) : (run settings).implicitZone.Lexical :=
  lexical_foldl settings Timezone.utc_lexical

theorem lookup?_run (settings : List Setting) (qualifier : String) :
    (run settings).namespaces.lookup? qualifier =
      (settings.filterMap fun setting =>
          if qualifier = "xml" then none else setting.boundTo? qualifier).getLast?.or
        (Namespace.reserved? qualifier) := by
  have hview := view_foldl_apply (fun builder => builder.namespaces.lookup? qualifier)
    (fun setting => (if qualifier = "xml" then none else setting.boundTo? qualifier).map some)
    (fun builder setting => by
      rw [lookup?_apply]
      cases (if qualifier = "xml" then none else setting.boundTo? qualifier) <;> rfl)
    settings start
  refine hview.trans ?_
  rw [← List.map_filterMap, List.getLast?_map]
  rw [show start.namespaces.lookup? qualifier = _ from Namespace.lookup?_ofList_reserved qualifier]
  cases (settings.filterMap _).getLast? <;> rfl

theorem apply_binding (builder : Builder) (qualifier uri : String) :
    (Setting.binding qualifier uri).apply builder =
      { builder with
        namespaces :=
          if qualifier = "xml" then builder.namespaces
          else builder.namespaces.insert qualifier uri } := by
  change builder.withNamespace qualifier uri = _
  unfold withNamespace
  split_ifs <;> rfl

theorem apply_comm_of_zone {a b : Setting} (ha : a.subject = .zone) (hb : b.subject ≠ .zone)
    (builder : Builder) : b.apply (a.apply builder) = a.apply (b.apply builder) := by
  rw [apply_of_zone ha, apply_of_zone ha]
  cases b with
  | zoneMinutes minutes | zone zone => exact absurd rfl hb
  | now reading | functionNamespace uri => rfl
  | binding qualifier uri => rw [apply_binding, apply_binding]

theorem apply_comm {a b : Setting} (h : a.subject ≠ b.subject) (builder : Builder) :
    b.apply (a.apply builder) = a.apply (b.apply builder) := by
  by_cases ha : a.subject = .zone
  · exact apply_comm_of_zone ha (fun hb => h (ha.trans hb.symm)) builder
  by_cases hb : b.subject = .zone
  · exact (apply_comm_of_zone hb ha builder).symm
  cases a with
  | zoneMinutes minutes | zone zone => exact absurd rfl ha
  | now reading =>
    cases b with
    | zoneMinutes minutes | zone zone => exact absurd rfl hb
    | now other => exact absurd rfl h
    | functionNamespace uri => rfl
    | binding qualifier uri => rw [apply_binding, apply_binding]; rfl
  | functionNamespace uri =>
    cases b with
    | zoneMinutes minutes | zone zone => exact absurd rfl hb
    | now reading => rfl
    | functionNamespace other => exact absurd rfl h
    | binding qualifier uri' => rw [apply_binding, apply_binding]; rfl
  | binding qualifier uri =>
    cases b with
    | zoneMinutes minutes | zone zone => exact absurd rfl hb
    | now reading | functionNamespace uri' => rw [apply_binding, apply_binding]; rfl
    | binding other uri' =>
      have hne : qualifier ≠ other := fun heq => h (congrArg Subject.binding heq)
      simp only [apply_binding]
      split_ifs
      · rfl
      · rfl
      · rfl
      · rw [Bindings.insert_comm hne]

theorem run_swap {a b : Setting} (h : a.subject ≠ b.subject) (before after : List Setting) :
    run (before ++ a :: b :: after) = run (before ++ b :: a :: after) := by
  simp only [run, List.foldl_append, List.foldl_cons]
  rw [apply_comm h]

/-- Whatever the settings are, the implicit zone is the one of the last offset that a lexical form
can give, and an offset without one changes nothing; `xml` keeps its namespace, and any other
qualifier has that of its last binding, or else its reserved one; and two settings of different
things give the same context in either order. -/
theorem run_settings (settings : List Setting) (reading : ClockReading) :
    let context := (run settings).build reading
    context.implicitZone.Lexical ∧
      context.implicitZone = (settings.filterMap Setting.zone?).getLast?.getD .utc ∧
      (∀ (builder : Builder) (setting : Setting), setting.subject = .zone →
        setting.zone? = none → setting.apply builder = builder) ∧
      context.resolve? "xml" = some Namespace.xml ∧
      (∀ qualifier ≠ "xml", context.resolve? qualifier =
        (settings.filterMap (Setting.boundTo? qualifier)).getLast?.or
          (Namespace.reserved? qualifier)) ∧
      ∀ (before after : List Setting) (a b : Setting), a.subject ≠ b.subject →
        (run (before ++ a :: b :: after)).build reading =
          (run (before ++ b :: a :: after)).build reading := by
  refine ⟨lexical_run settings, implicitZone_run settings, ?_, ?_, ?_, ?_⟩
  · intro builder setting hsubject hzone
    rw [apply_of_zone hsubject, hzone]
    rfl
  · change ((run settings).namespaces.lookup? "xml").or _ = _
    rw [lookup?_run]
    simp only [if_true, List.filterMap_none]
    decide
  · intro qualifier hxml
    change ((run settings).namespaces.lookup? qualifier).or _ = _
    rw [lookup?_run]
    simp only [if_neg hxml]
    rw [Option.or_assoc, Option.or_self]
  · intro before after a b h
    rw [run_swap h]

/-- Of four offsets the third is the last one with a lexical form; `xml` keeps its namespace, `xs`
gets its last binding, and the two bindings after the first zone can be exchanged. -/
theorem run_settings_of_offsets (reading : ClockReading) :
    let settings : List Setting := [.zoneMinutes 60, .binding "xml" "urn:a", .binding "xs" "urn:b",
      .zoneMinutes 841, .zone .utc, .zoneMinutes (-900)]
    let context := (run settings).build reading
    context.implicitZone = .utc ∧ context.resolve? "xml" = some Namespace.xml ∧
      context.resolve? "xs" = some "urn:b" ∧
      context = (run [.zoneMinutes 60, .binding "xs" "urn:b", .binding "xml" "urn:a",
        .zoneMinutes 841, .zone .utc, .zoneMinutes (-900)]).build reading := by
  intro settings context
  obtain ⟨-, hzone, -, hxml, hbound, hswap⟩ := run_settings settings reading
  refine ⟨hzone.trans (by decide), hxml, (hbound "xs" (by decide)).trans (by decide), ?_⟩
  exact hswap [.zoneMinutes 60] [.zoneMinutes 841, .zone .utc, .zoneMinutes (-900)]
    (.binding "xml" "urn:a") (.binding "xs" "urn:b") (by decide)

end Context.Builder

end XPathValues
