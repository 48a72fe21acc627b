import Registrar.Proofs.Document.Codecs
import Registrar.Records.Failure

/-!
# Failures that fit

A failure fits if its numbers have as many bits as they are written with. What is written of it, its
kind and its details, is enough to tell it from every other failure.
-/

namespace Registrar.Failure

open Document

def Fits : Failure → Prop
  | .circuitOpen failures sinceMillis => failures ≤ Decimal.max32 ∧ sinceMillis ≤ Decimal.max64
  | .transient attempts _ => attempts ≤ Decimal.max32
  | .remoteRejected _ _ attempts => attempts ≤ Decimal.max32
  | _ => True

/-! ## Details -/

theorem circuit_sound :
    circuitLayout.codec.Sound fun d => d.1 ≤ Decimal.max32 ∧ d.2 ≤ Decimal.max64 := by
  refine Layout.sound (by decide) (fun {d} fits => ?_) ?_
  · exact .seq (.map (.required (by simpa using fits.1))) (.required (by simpa using fits.2))
  · refine .seq (.map ?_)
    simp only [Layout.promises_required_iff, Codec.promises_word32_iff, Codec.promises_word64_iff]
    exact fun _ failures _ millis => ⟨failures, millis⟩

theorem transient_sound : transientLayout.codec.Sound fun d => d.1 ≤ Decimal.max32 := by
  refine Layout.sound (by decide) (fun {d} fits => ?_) ?_
  · exact .seq (.map (.required (by simpa using fits))) (.required (Codec.keeps_text _))
  · refine .seq (.map ?_)
    simp +contextual

theorem rejected_sound : rejectedLayout.codec.Sound fun d => d.2.2 ≤ Decimal.max32 := by
  refine Layout.sound (by decide) (fun {d} fits => ?_) ?_
  · exact .seq (.seq (.map (.required (Codec.keeps_text _))) (.required (Codec.keeps_text _)))
      (.required (by simpa using fits))
  · refine .seq (.seq (.map ?_))
    simp +contextual

theorem notFound_sound : notFoundLayout.codec.Sound fun _ => True :=
  Layout.sound (by decide)
    (fun _ => .seq (.map (.required (Codec.keeps_text _))) (.required (Codec.keeps_text _)))
    fun _ _ _ => trivial

theorem protocol_sound : protocolLayout.codec.Sound fun _ => True :=
  Layout.sound (by decide) (fun _ => .required (Codec.keeps_text _)) fun _ _ _ => trivial

theorem operation_sound : operationLayout.codec.Sound fun _ => True :=
  Layout.sound (by decide)
    (fun _ => .seq (.map (.required (Codec.keeps_text _))) (.required (Codec.keeps_text _)))
    fun _ _ _ => trivial

/-! ## Documents -/

variable {f : Failure}

/-- A kind without details stands alone. -/
theorem keeps_of_kind (bare : f.details? = none) (read : ofDetails? f.kind none = some f) :
    codec.Keeps f := by
  have written : codec.write f = .table [("type", .text f.kind)] := by
    show toValue f = _
    rw [toValue, bare]
    rfl
  refine ⟨?_, ?_⟩
  · rw [written]
    exact .table (by simpa using .text _)
  · rw [written]
    exact read

theorem keeps_of_details {v : Value} (given : f.details? = some v) (plain : v.IsPlain)
    (read : ofDetails? f.kind (some v) = some f) : codec.Keeps f := by
  have written : codec.write f = .table [("type", .text f.kind), ("details", v)] := by
    show toValue f = _
    rw [toValue, given]
    rfl
  refine ⟨?_, ?_⟩
  · rw [written]
    exact .table (by simpa using ⟨.text _, plain⟩)
  · rw [written]
    exact read

theorem keeps_of_layout {α : Type} {l : Layout α α} {a : α} (make : α → Failure)
    (kept : l.codec.Keeps a) (given : (make a).details? = some (.table (l.write a)))
    (read : ∀ v, ofDetails? (make a).kind (some v) = (readTable l v).map make) :
    codec.Keeps (make a) := by
  refine keeps_of_details given kept.plain ?_
  rw [read]
  show (l.codec.read (l.codec.write a)).map make = some (make a)
  rw [kept.read, Option.map_some]

theorem keeps (fits : f.Fits) : codec.Keeps f := by
  cases f with
  | rateLimitExceeded => exact keeps_of_kind rfl rfl
  | canceled => exact keeps_of_kind rfl rfl
  | invalidInput reason => exact keeps_of_details rfl (.text reason) rfl
  | config reason => exact keeps_of_details rfl (.text reason) rfl
  | circuitOpen failures sinceMillis =>
    exact keeps_of_layout (fun d => .circuitOpen d.1 d.2)
      (circuit_sound.keeps (a := (failures, sinceMillis)) fits) rfl fun _ => rfl
  | transient attempts cause =>
    exact keeps_of_layout (fun d => .transient d.1 d.2)
      (transient_sound.keeps (a := (attempts, cause)) fits) rfl fun _ => rfl
  | remoteRejected code message attempts =>
    exact keeps_of_layout (fun d => .remoteRejected d.1 d.2.1 d.2.2)
      (rejected_sound.keeps (a := (code, message, attempts)) fits) rfl fun _ => rfl
  | notFound code message =>
    exact keeps_of_layout (fun d => .notFound d.1 d.2)
      (notFound_sound.keeps (a := (code, message)) trivial) rfl fun _ => rfl
  | protocolError detail =>
    exact keeps_of_layout .protocolError (protocol_sound.keeps (a := detail) trivial) rfl
      fun _ => rfl
  | operationFailed command reason =>
    exact keeps_of_layout (fun d => .operationFailed d.1 d.2)
      (operation_sound.keeps (a := (command, reason)) trivial) rfl fun _ => rfl

/-! ## Reading -/

theorem fits_of_layout {α : Type} {l : Layout α α} {P : α → Prop} {make : α → Failure}
    {v : Value} (sound : l.codec.Sound P) (h : (readTable l v).map make = some f)
    (fits : ∀ a, P a → (make a).Fits) : f.Fits := by
  obtain ⟨a, read, rfl⟩ := Option.map_eq_some_iff.1 h
  refine fits a ?_
  unfold readTable at read
  split at read
  · exact sound.promises (.table _) a read
  · exact nomatch read

theorem fits_of_ofDetails? {kind : String} {v : Option Value} (h : ofDetails? kind v = some f) :
    f.Fits := by
  unfold ofDetails? at h
  split at h
  case h_5 => exact fits_of_layout circuit_sound h fun _ fits => fits
  case h_6 => exact fits_of_layout transient_sound h fun _ fits => fits
  case h_7 => exact fits_of_layout rejected_sound h fun _ fits => fits
  case h_8 => exact fits_of_layout notFound_sound h fun _ _ => trivial
  case h_9 => exact fits_of_layout protocol_sound h fun _ _ => trivial
  case h_11 => exact fits_of_layout operation_sound h fun _ _ => trivial
  case h_13 => exact nomatch h
  all_goals
    cases h
    trivial

theorem sound : codec.Sound Fits := by
  refine ⟨keeps, fun v f read => ?_⟩
  change ofValue? v = some f at read
  unfold ofValue? at read
  split at read
  case h_1 =>
    unfold ofEntries? at read
    split at read
    case h_3 =>
      split at read
      · exact fits_of_ofDetails? read
      · exact nomatch read
    case h_4 => exact nomatch read
    all_goals exact fits_of_ofDetails? read
  case h_2 => exact fits_of_ofDetails? read
  case h_3 => exact nomatch read

end Registrar.Failure
