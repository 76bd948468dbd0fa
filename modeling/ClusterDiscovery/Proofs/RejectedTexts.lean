import ClusterDiscovery.Proofs.Breakdowns
import ClusterDiscovery.Proofs.Listing

/-! # Rejected texts

A text that is no expression is a configuration error that names the text, wherever the text is
used: alone, in a filter, in the settings of a client, or in a call. A breakdown of its
compilation is passed on in each of these places.
-/

namespace ClusterDiscovery

open Expression

/-! ## Filters from texts -/

/-- The failure that names a text that is no expression. -/
def rejection (text reason : String) : Failure :=
  .configuration ("Invalid filter expression " ++ Text.quoted text ++ ": " ++ reason)
    [(.text "expression", .text text)]

/-- The outcome of an operation that takes a text: a success, or a failure that names the
text. -/
def Answered {α : Type} (text : String) (r : Except Failure α) : Prop :=
  (∃ a, r = .ok a) ∨ ∃ reason, r = .error (rejection text reason)

theorem compileExpression_answered {text : String}
    (h : ∀ f, Program.compile (Text.trim text) ≠ .error (.fault f)) :
    Answered text (compileExpression text) := by
  unfold compileExpression
  cases hcompile : Program.compile (Text.trim text) with
  | ok program => exact .inl ⟨program, rfl⟩
  | error issue =>
      refine .inr ⟨issue.message, ?_⟩
      cases issue
      case fault f => exact absurd hcompile (h f)
      all_goals rfl

theorem compileExpression_of_fault {text : String} {f : Fault}
    (h : Program.compile (Text.trim text) = .error (.fault f)) :
    compileExpression text = .error (.fault f) := by
  unfold compileExpression
  rw [h]
  rfl

theorem compile_empty : Program.compile "" = .error (.unexpectedToken "end of template") := rfl

/-- A blank text is no expression, and compiling it says so. -/
theorem nonblank_of_fault {text : String} {f : Fault}
    (h : Program.compile (Text.trim text) = .error (.fault f)) :
    (Text.trim text).isEmpty = false := by
  by_contra hblank
  have hempty : Text.trim text = "" := by simpa using hblank
  rw [hempty, compile_empty] at h
  cases h

namespace ServiceFilter

theorem ofExpression_nonblank {text : String} (h : (Text.trim text).isEmpty = false) :
    ofExpression (some text) = (do return ⟨some text, some (← compileExpression text)⟩) := by
  simp [ofExpression, nonBlank, h]

theorem ofExpression_of_error {text : String} {failure : Failure}
    (nonblank : (Text.trim text).isEmpty = false)
    (h : compileExpression text = .error failure) : ofExpression (some text) = .error failure := by
  rw [ofExpression_nonblank nonblank, h]
  rfl

theorem ofExpression_answered {text : String} (h : Answered text (compileExpression text)) :
    Answered text (ofExpression (some text)) := by
  cases hblank : (Text.trim text).isEmpty with
  | true => exact .inl ⟨_, ofExpression_blank hblank⟩
  | false =>
      obtain ⟨program, hok⟩ | ⟨reason, herror⟩ := h
      · refine .inl ⟨⟨some text, some program⟩, ?_⟩
        rw [ofExpression_nonblank hblank, hok]
        rfl
      · exact .inr ⟨reason, ofExpression_of_error hblank herror⟩

end ServiceFilter

namespace DiscoveryClient

variable {text : String} {settings : DiscoverySettings}

theorem make_of_error (hfilter : settings.filter = some text) (secure : Option SecurePorts)
    {failure : Failure} (h : ServiceFilter.ofExpression (some text) = .error failure) :
    make settings secure = .error failure := by
  unfold make
  rw [hfilter, h]
  rfl

theorem make_answered (hfilter : settings.filter = some text) (secure : Option SecurePorts)
    (h : Answered text (ServiceFilter.ofExpression (some text))) :
    Answered text (make settings secure) := by
  obtain ⟨filter, hok⟩ | ⟨reason, herror⟩ := h
  · refine .inl ⟨⟨settings, secure.getD (.ofInts settings.knownSecurePorts), filter⟩, ?_⟩
    unfold make
    rw [hfilter, hok]
    rfl
  · exact .inr ⟨reason, make_of_error hfilter secure herror⟩

variable {World : Type} (reader : ClusterReader World) {client : DiscoveryClient}

/-- The text of a call decides before anything is read. -/
theorem getServices_of_error (enabled : client.settings.enabled = true)
    (nonblank : (Text.trim text).isEmpty = false) {failure : Failure}
    (h : ServiceFilter.ofExpression (some text) = .error failure) (session : Session World) :
    (client.getServices reader (.expression text)).runOn session = (.error failure, session) := by
  have hnames : namesBy reader client.filter (.expression text) = .error failure := by
    simp [namesBy, nonblank, h, bind, Except.bind]
  rw [getServices_eq client reader _ enabled, hnames]
  rfl

/-- A call with a text lists what a client lists that has this text as its filter. -/
theorem getServices_of_ok (enabled : client.settings.enabled = true)
    (nonblank : (Text.trim text).isEmpty = false) {filter : ServiceFilter}
    (h : ServiceFilter.ofExpression (some text) = .ok filter) :
    client.getServices reader (.expression text) =
      { client with filter := filter }.getServices reader .configured := by
  have hnames : namesBy reader client.filter (.expression text) =
      namesBy reader filter .configured := by
    simp [namesBy, nonblank, h, bind, Except.bind, pure, Except.pure]
  rw [getServices_eq client reader _ enabled, hnames]
  exact (getServices_eq { client with filter := filter } reader .configured enabled).symm

end DiscoveryClient

/-! ## What becomes of a text -/

/-- A text is accepted or there is a configuration error that names it, wherever it is used. -/
structure IsAnswered (text : String) : Prop where
  alone : Answered text (compileExpression text)
  inFilter : Answered text (ServiceFilter.ofExpression (some text))
  inSettings : ∀ settings secure, settings.filter = some text →
    Answered text (DiscoveryClient.make settings secure)
  inCall : ∀ (World : Type) (reader : ClusterReader World) (client : DiscoveryClient),
    client.settings.enabled = true → (Text.trim text).isEmpty = false →
    (∃ filter, ServiceFilter.ofExpression (some text) = .ok filter ∧
      client.getServices reader (.expression text) =
        { client with filter := filter }.getServices reader .configured) ∨
    ∃ reason, ∀ session, (client.getServices reader (.expression text)).runOn session =
      (.error (rejection text reason), session)

/-- A fault is passed on as it is, wherever the text is used. -/
structure BreaksDown (text : String) (f : Fault) : Prop where
  alone : compileExpression text = .error (.fault f)
  inFilter : ServiceFilter.ofExpression (some text) = .error (.fault f)
  inSettings : ∀ settings secure, settings.filter = some text →
    DiscoveryClient.make settings secure = .error (.fault f)
  inCall : ∀ (World : Type) (reader : ClusterReader World) (client : DiscoveryClient),
    client.settings.enabled = true →
    ∀ session, (client.getServices reader (.expression text)).runOn session =
      (.error (.fault f), session)

theorem isAnswered {text : String}
    (h : ∀ f, Program.compile (Text.trim text) ≠ .error (.fault f)) : IsAnswered text := by
  have hcompiled := compileExpression_answered h
  have hfilter := ServiceFilter.ofExpression_answered hcompiled
  refine ⟨hcompiled, hfilter, fun settings secure hsettings =>
    DiscoveryClient.make_answered hsettings secure hfilter, ?_⟩
  intro World reader client enabled nonblank
  obtain ⟨filter, hok⟩ | ⟨reason, herror⟩ := hfilter
  · exact .inl ⟨filter, hok, DiscoveryClient.getServices_of_ok reader enabled nonblank hok⟩
  · exact .inr ⟨reason, DiscoveryClient.getServices_of_error reader enabled nonblank herror⟩

theorem breaksDown {text : String} {f : Fault}
    (h : Program.compile (Text.trim text) = .error (.fault f)) : BreaksDown text f := by
  have nonblank := nonblank_of_fault h
  have hcompiled := compileExpression_of_fault h
  have hfilter := ServiceFilter.ofExpression_of_error nonblank hcompiled
  exact ⟨hcompiled, hfilter,
    fun settings secure hsettings => DiscoveryClient.make_of_error hsettings secure hfilter,
    fun World reader client enabled =>
      DiscoveryClient.getServices_of_error reader enabled nonblank hfilter⟩

theorem Answered.ne_fault {α : Type} {text : String} {r : Except Failure α} (h : Answered text r)
    (f : Fault) : r ≠ .error (.fault f) := by
  rintro rfl
  obtain ⟨a, hok⟩ | ⟨reason, herror⟩ := h
  · cases hok
  · cases herror

theorem BreaksDown.compile {text : String} {f : Fault} (h : BreaksDown text f) :
    Program.compile (Text.trim text) = .error (.fault f) := by
  by_cases hfault : ∃ f', Program.compile (Text.trim text) = .error (.fault f')
  · obtain ⟨f', hf'⟩ := hfault
    have hsame := h.alone
    rw [compileExpression_of_fault hf'] at hsame
    cases hsame
    exact hf'
  · exact absurd h.alone ((compileExpression_answered (not_exists.mp hfault)).ne_fault f)

/-- The fault that the compilation of a text breaks down with. -/
def breakdown? (text : String) : Option Fault :=
  match Program.compile (Text.trim text) with
  | .error (.fault f) => some f
  | _ => none

theorem breakdown?_eq_some {text : String} {f : Fault} :
    breakdown? text = some f ↔ BreaksDown text f := by
  constructor
  · intro h
    unfold breakdown? at h
    split at h
    · next f' hfault =>
        obtain rfl := Option.some.inj h
        exact breaksDown hfault
    · cases h
  · intro h
    rw [breakdown?, h.compile]

end ClusterDiscovery
