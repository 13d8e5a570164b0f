import Footfall.Proofs.Admission.Run
import Footfall.Proofs.Settings
import Footfall.Service.Basic

/-!
# Reloading the settings of a service

Hasher and admission control are derived from the settings, and reloading replaces all three one
after the other. `reload_eq` says that it replaces all or nothing: the salt is looked at twice, when
the settings are checked and when the hasher takes it, but what passes the first check passes the
second one.

A service is coherent when the hasher and the admission control are those of its settings
(`Coherent`). It is so from the start (`coherent_withQueue`), each step keeps it
(`Coherent.apply`), and hence all steps together (`Coherent.run`).
-/

namespace Footfall.Service

/-- The admission control with the limits of the settings, and the buckets that it had. -/
def limited (c : Admission.Controller Float) (settings : Settings) : Admission.Controller Float :=
  { c with
    address := { c.address with capacity := max settings.addressLimit 1 }
    apiKey := { c.apiKey with capacity := max settings.apiKeyLimit 1 } }

/-- The hasher of the settings. -/
def hasherOf (settings : Settings) : Visitor.Hasher :=
  ⟨settings.salt, min (max settings.rotationHours 1) 8760⟩

/-- **Reloading replaces all or nothing.** -/
theorem reload_eq (s : Service) (next : Settings) :
    s.reload next =
      match next.validate with
      | .error e => (.error e, s)
      | .ok () =>
        (.ok (),
          { s with
            settings := next
            hasher := hasherOf next
            admission := limited s.admission next }) := by
  rw [reload]
  cases hvalid : next.validate with
  | error e => rfl
  | ok u =>
    have hsalt := Settings.checkSalt_of_validate hvalid
    rw [Visitor.Hasher.reload, Visitor.Hasher.new, hsalt]
    rfl

/-- Settings are accepted exactly when they are valid. -/
theorem reload_fst (s : Service) (next : Settings) : (s.reload next).1 = next.validate := by
  rw [reload_eq]
  cases next.validate <;> rfl

theorem reload_of_error {s : Service} {next : Settings} {e : DomainError}
    (h : (s.reload next).1 = .error e) : (s.reload next).2 = s := by
  rw [reload_fst] at h
  rw [reload_eq, h]

theorem reload_of_ok {s : Service} {next : Settings} (h : (s.reload next).1 = .ok ()) :
    (s.reload next).2 =
      { s with
        settings := next
        hasher := hasherOf next
        admission := limited s.admission next } := by
  rw [reload_fst] at h
  rw [reload_eq, h]

/-! ## Coherence -/

/-- Hasher and admission control are those of the settings. -/
structure Coherent (s : Service) : Prop where
  salt : s.hasher.salt = s.settings.salt
  rotation : s.hasher.rotationHours = min (max s.settings.rotationHours 1) 8760
  address : s.admission.address.capacity = max s.settings.addressLimit 1
  apiKey : s.admission.apiKey.capacity = max s.settings.apiKeyLimit 1

/-- Something that happens to a service: other settings are given to it, or the admission control
decides about a request. -/
inductive Step where
  | reload (next : Settings)
  | check (address key : String) (clock : Moment)

/-- The service after a step. -/
def apply (s : Service) : Step → Service
  | .reload next => (s.reload next).2
  | .check address key clock =>
    { s with admission := (s.admission.check address key clock).2 }

/-- The service after a list of steps. -/
def run (s : Service) (steps : List Step) : Service := steps.foldl apply s

theorem coherent_withQueue {settings : Settings} {locate : Locator} {store : Store}
    {classify : Classifier} {capacity : Nat} {s : Service}
    (h : withQueue settings locate classify store capacity = .ok s) :
    s.Coherent := by
  rw [withQueue, Visitor.Hasher.new] at h
  cases hsalt : Visitor.checkSalt settings.salt with
  | error e => simp [hsalt] at h
  | ok u =>
    rw [hsalt] at h
    obtain rfl := Except.ok.inj h
    exact ⟨rfl, rfl, rfl, rfl⟩

theorem Coherent.reload {s : Service} (h : s.Coherent) (next : Settings) :
    (s.reload next).2.Coherent := by
  rw [reload_eq]
  cases next.validate with
  | error e => exact h
  | ok u => exact ⟨rfl, rfl, rfl, rfl⟩

theorem Coherent.check {s : Service} (h : s.Coherent) (address key : String) (clock : Moment) :
    (s.apply (.check address key clock)).Coherent := by
  obtain ⟨haddress, hkey⟩ := s.admission.capacity_check address key clock
  exact ⟨h.salt, h.rotation, haddress.trans h.address, hkey.trans h.apiKey⟩

theorem Coherent.apply {s : Service} (h : s.Coherent) (step : Step) : (s.apply step).Coherent := by
  cases step with
  | reload next => exact h.reload next
  | check address key clock => exact h.check address key clock

theorem Coherent.run {s : Service} (h : s.Coherent) (steps : List Step) :
    (s.run steps).Coherent := by
  induction steps generalizing s with
  | nil => exact h
  | cons step rest ih => exact ih (h.apply step)

/-- **Reloading is all or nothing and keeps a service coherent.** However often a service is given
other settings while requests are decided about, its hasher and its limits are those of its
settings. Settings that are refused change nothing. Settings that are accepted replace the former
ones, together with the hasher and the limits, and leave the buckets as they are. The settings that
an environment gives are always accepted. -/
theorem reload_atomic_coherent :
    (∀ (settings : Settings) (locate : Locator) (classify : Classifier) (store : Store)
        (capacity : Nat) (s : Service) (steps : List Step),
        withQueue settings locate classify store capacity = .ok s →
      (s.run steps).Coherent) ∧
    (∀ (s : Service) (next : Settings) (e : DomainError), (s.reload next).1 = .error e →
      (s.reload next).2 = s) ∧
    (∀ (s : Service) (next : Settings), (s.reload next).1 = .ok () →
      (s.reload next).2 =
        { s with
          settings := next
          hasher := hasherOf next
          admission := limited s.admission next }) ∧
    ∀ (env : Environment) (settings : Settings), Settings.fromEnvironment env = .ok settings →
      ∀ s : Service, (s.reload settings).1 = .ok () := by
  refine ⟨fun settings locate classify store capacity s steps h =>
      (coherent_withQueue h).run steps,
    fun s next e h => reload_of_error h, fun s next h => reload_of_ok h,
    fun env settings h s => ?_⟩
  rw [reload_fst]
  exact Settings.validate_of_fromEnvironment h

/-- A service is given a salt of 32 characters with no rotation and lower limits, is used, and is
given a salt that has more than 32 bytes but only 17 characters. -/
theorem reload_atomic_coherent_longer_and_shorter_salt :
    ∃ (s : Service) (longer shorter : Settings),
      withQueue (Settings.ofSalt "0123456789abcdef0123456789abcdef") Locator.blind
          (fun _ => none) {} 8 = .ok s ∧
        longer =
          { Settings.ofSalt (String.ofList (List.replicate 32 'é')) with
            rotationHours := 0
            addressLimit := 5 } ∧
        shorter = Settings.ofSalt (String.ofList (List.replicate 17 'é')) ∧
        (s.run [.check "x" "k" 0, .reload longer, .check "x" "k" 0, .reload shorter]).Coherent ∧
        (s.reload shorter).1 = .error (.saltTooShort 32 17) ∧ (s.reload shorter).2 = s ∧
        (s.reload longer).1 = .ok () ∧
        (s.reload longer).2 =
          { s with
            settings := longer
            hasher := hasherOf longer
            admission := limited s.admission longer } ∧
        Settings.fromEnvironment (Settings.onlySalt "0123456789abcdef0123456789abcdef") =
          .ok (.ofSalt "0123456789abcdef0123456789abcdef") ∧
        (s.reload (.ofSalt "0123456789abcdef0123456789abcdef")).1 = .ok () := by
  obtain ⟨hcoherent, hrefused, hinstalled, henvironment⟩ := reload_atomic_coherent
  obtain ⟨s, hs⟩ : ∃ s : Service,
      withQueue (Settings.ofSalt "0123456789abcdef0123456789abcdef") Locator.blind
        (fun _ => none) {} 8 = .ok s :=
    ⟨_, rfl⟩
  have hshorter : (s.reload (.ofSalt (String.ofList (List.replicate 17 'é')))).1 =
      .error (.saltTooShort 32 17) := by
    rw [reload_fst]
    decide +kernel
  have hlonger : (s.reload { Settings.ofSalt (String.ofList (List.replicate 32 'é')) with
      rotationHours := 0, addressLimit := 5 }).1 = .ok () := by
    rw [reload_fst]
    decide +kernel
  have hdefault : Settings.fromEnvironment (Settings.onlySalt "0123456789abcdef0123456789abcdef") =
      .ok (.ofSalt "0123456789abcdef0123456789abcdef") :=
    Settings.fromEnvironment_onlySalt (by decide +kernel)
  exact ⟨s, _, _, hs, rfl, rfl, hcoherent _ _ _ _ _ _ _ hs, hshorter, hrefused _ _ _ hshorter,
    hlonger, hinstalled _ _ hlonger, hdefault, henvironment _ _ hdefault s⟩

end Footfall.Service
