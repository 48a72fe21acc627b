import Registrar.Proofs.Document.Codecs
import Registrar.Proofs.Operations.HostListing
import Registrar.Records.Account
import Registrar.Records.Certificate
import Registrar.Records.Domain
import Registrar.Records.WhoisGuard
import Registrar.Settings

/-!
# Records that fit

A record fits if its numbers have as many bits as they are written with, and if its types and states
are those that their texts name. Its codec is sound for these records: what fits comes back from a
document as it was, and whatever is read from one fits.
-/

namespace Registrar

open Document

/-! ## Credentials -/

theorem Credentials.sound : layout.codec.Sound fun _ => True := by
  refine Layout.sound (by decide) (fun {c} _ => ?_) fun _ _ _ => trivial
  cases c
  unfold layout
  repeat' with_reducible first
    | apply Layout.Keeps.map | apply Layout.Keeps.seq | apply Layout.Keeps.required
  all_goals simp

/-! ## Domains -/

theorem DomainName.sound : layout.codec.Sound fun _ => True := by
  refine Layout.sound (by decide) (fun {d} _ => ?_) fun _ _ _ => trivial
  cases d
  unfold layout
  repeat' with_reducible first
    | apply Layout.Keeps.map | apply Layout.Keeps.seq | apply Layout.Keeps.required
  all_goals simp

namespace Domain

def Fits (d : Domain) : Prop := d.id ≤ Decimal.max64

theorem sound : layout.codec.Sound Fits := by
  refine Layout.sound (by decide) (fun {d} fits => ?_) ?_
  · cases d
    unfold layout
    repeat' with_reducible first
      | apply Layout.Keeps.map | apply Layout.Keeps.seq | apply Layout.Keeps.required
    all_goals simp
    exact fits
  · unfold layout
    repeat' with_reducible first | apply Layout.Promises.map | apply Layout.Promises.seq
    simp +contextual [Fits]

end Domain

theorem DnsDetails.sound : layout.codec.Sound fun _ => True := by
  refine Layout.sound (by decide) (fun {d} _ => ?_) fun _ _ _ => trivial
  cases d
  unfold layout
  repeat' with_reducible first
    | apply Layout.Keeps.map | apply Layout.Keeps.seq | apply Layout.Keeps.required
  all_goals simp

namespace DomainInfo

def Fits (d : DomainInfo) : Prop := d.id ≤ Decimal.max64

theorem sound : layout.codec.Sound Fits := by
  have dns := DnsDetails.sound
  refine Layout.sound (by decide) (fun {d} fits => ?_) ?_
  · cases d
    unfold layout
    repeat' with_reducible first
      | apply Layout.Keeps.map | apply Layout.Keeps.seq | apply Layout.Keeps.required
    all_goals simp [dns.keeps_iff]
    exact fits
  · unfold layout
    repeat' with_reducible first | apply Layout.Promises.map | apply Layout.Promises.seq
    simp +contextual [Fits, dns.promises_iff]

end DomainInfo

/-! ## Host records -/

namespace RecordType

/-- The type that its text names. -/
def Fits (t : RecordType) : Prop := ofText t.text = t

theorem fits_ofText (s : String) : (ofText s).Fits := ofText_text_ofText s

-- A type that is spelled out where it has a name of its own is not read back as it was.
example : ofText (other "mx").text = .mx := by decide +kernel

theorem sound : codec.Sound Fits := by
  refine Codec.sound_text.via (fun t fits => ⟨trivial, congrArg some fits⟩) ?_
  rintro s t _ ⟨⟩
  exact fits_ofText s

end RecordType

namespace HostRecord

structure Fits (r : HostRecord) : Prop where
  hostId : ∀ n ∈ r.hostId, n ≤ Decimal.max64
  recordType : r.recordType.Fits
  mxPref : ∀ n ∈ r.mxPref, n ≤ Decimal.max32
  ttl : ∀ n ∈ r.ttl, n ≤ Decimal.max32

theorem sound : layout.codec.Sound Fits := by
  have type := RecordType.sound
  refine Layout.sound (by decide) (fun {r} fits => ?_) ?_
  · cases r
    obtain ⟨_, _, _, _⟩ := fits
    unfold layout
    repeat' with_reducible first
      | apply Layout.Keeps.map | apply Layout.Keeps.seq | apply Layout.Keeps.required
      | apply Layout.Keeps.optional
    all_goals simp only [Codec.keeps_text, Codec.keeps_bool, Codec.keeps_optional_word32_iff,
      Codec.keeps_optional_word64_iff, type.keeps_iff]
    all_goals assumption
  · unfold layout
    repeat' with_reducible first | apply Layout.Promises.map | apply Layout.Promises.seq
    simp only [Layout.promises_required_iff, Layout.promises_optional_iff, Codec.promises_text_iff,
      Codec.promises_bool_iff, Codec.promises_optional_word32_iff,
      Codec.promises_optional_word64_iff, type.promises_iff]
    exact fun _ id _ _ type _ _ pref _ ttl _ => ⟨id, type, pref, ttl⟩

end HostRecord

/-! ## Certificates -/

namespace Certificate

structure Fits (c : Certificate) : Prop where
  certificateId : c.certificateId ≤ Decimal.max64
  years : c.years ≤ Decimal.max32

theorem sound : layout.codec.Sound Fits := by
  refine Layout.sound (by decide) (fun {c} fits => ?_) ?_
  · cases c
    obtain ⟨_, _⟩ := fits
    unfold layout
    repeat' with_reducible first
      | apply Layout.Keeps.map | apply Layout.Keeps.seq | apply Layout.Keeps.required
    all_goals simp
    all_goals assumption
  · unfold layout
    repeat' with_reducible first | apply Layout.Promises.map | apply Layout.Promises.seq
    simp only [Layout.promises_required_iff, Codec.promises_text_iff, Codec.promises_bool_iff,
      Codec.promises_word32_iff, Codec.promises_word64_iff]
    exact fun _ id _ _ _ _ _ _ _ _ years => ⟨id, years⟩

end Certificate

namespace CertificateDetails

structure Fits (c : CertificateDetails) : Prop where
  certificateId : c.certificateId ≤ Decimal.max64
  years : c.years ≤ Decimal.max32

theorem sound : layout.codec.Sound Fits := by
  refine Layout.sound (by decide) (fun {c} fits => ?_) ?_
  · cases c
    obtain ⟨_, _⟩ := fits
    unfold layout
    repeat' with_reducible first
      | apply Layout.Keeps.map | apply Layout.Keeps.seq | apply Layout.Keeps.required
    all_goals simp
    all_goals assumption
  · unfold layout
    repeat' with_reducible first | apply Layout.Promises.map | apply Layout.Promises.seq
    simp only [Layout.promises_required_iff, Codec.promises_text_iff, Codec.promises_texts_iff,
      Codec.promises_word32_iff, Codec.promises_word64_iff]
    exact fun _ id _ _ _ _ _ _ years _ _ => ⟨id, years⟩

end CertificateDetails

namespace ActivationRequest

def Fits (r : ActivationRequest) : Prop := r.certificateId ≤ Decimal.max64

theorem sound : layout.codec.Sound Fits := by
  refine Layout.sound (by decide) (fun {r} fits => ?_) ?_
  · cases r
    unfold layout
    repeat' with_reducible first
      | apply Layout.Keeps.map | apply Layout.Keeps.seq | apply Layout.Keeps.required
      | apply Layout.Keeps.optional
    all_goals simp
    exact fits
  · unfold layout
    repeat' with_reducible first | apply Layout.Promises.map | apply Layout.Promises.seq
    simp +contextual [Fits]

end ActivationRequest

/-! ## Privacy protection -/

namespace WhoisGuardStatus

/-- The state that its text names. -/
def Fits (t : WhoisGuardStatus) : Prop := ofText t.text = t

theorem fits_ofText (s : String) : (ofText s).Fits := by
  unfold ofText
  split
  case h_1 t found =>
    have named := List.mem_of_find?_eq_some found
    simp only [List.mem_cons, List.not_mem_nil, or_false] at named
    unfold Fits
    rcases named with rfl | rfl | rfl <;> decide +kernel
  case h_2 unnamed =>
    have same : (other s).text = s := rfl
    unfold Fits ofText
    rw [same, unnamed]

theorem sound : codec.Sound Fits := by
  refine Codec.sound_text.via (fun t fits => ⟨trivial, congrArg some fits⟩) ?_
  rintro s t _ ⟨⟩
  exact fits_ofText s

end WhoisGuardStatus

namespace WhoisGuard

structure Fits (w : WhoisGuard) : Prop where
  id : w.id ≤ Decimal.max64
  status : w.status.Fits

theorem sound : layout.codec.Sound Fits := by
  have status := WhoisGuardStatus.sound
  refine Layout.sound (by decide) (fun {w} fits => ?_) ?_
  · cases w
    obtain ⟨_, _⟩ := fits
    unfold layout
    repeat' with_reducible first
      | apply Layout.Keeps.map | apply Layout.Keeps.seq | apply Layout.Keeps.required
      | apply Layout.Keeps.optional
    all_goals simp [status.keeps_iff]
    all_goals assumption
  · unfold layout
    repeat' with_reducible first | apply Layout.Promises.map | apply Layout.Promises.seq
    simp only [Layout.promises_required_iff, Layout.promises_optional_iff, Codec.promises_text_iff,
      Codec.promises_optional_text_iff, Codec.promises_word64_iff, status.promises_iff]
    exact fun _ id _ _ _ _ status _ => ⟨id, status⟩

end WhoisGuard

/-! ## Top-level domains -/

namespace Tld

structure Fits (t : Tld) : Prop where
  minRegisterYears : t.minRegisterYears ≤ Decimal.max32
  maxRegisterYears : t.maxRegisterYears ≤ Decimal.max32
  minRenewYears : t.minRenewYears ≤ Decimal.max32
  maxRenewYears : t.maxRenewYears ≤ Decimal.max32
  minTransferYears : t.minTransferYears ≤ Decimal.max32
  maxTransferYears : t.maxTransferYears ≤ Decimal.max32

theorem sound : layout.codec.Sound Fits := by
  refine Layout.sound (by decide) (fun {t} fits => ?_) ?_
  · cases t
    obtain ⟨_, _, _, _, _, _⟩ := fits
    unfold layout
    repeat' with_reducible first
      | apply Layout.Keeps.map | apply Layout.Keeps.seq | apply Layout.Keeps.required
    all_goals simp
    all_goals assumption
  · unfold layout
    repeat' with_reducible first | apply Layout.Promises.map | apply Layout.Promises.seq
    simp only [Layout.promises_required_iff, Codec.promises_text_iff, Codec.promises_bool_iff,
      Codec.promises_word32_iff]
    exact fun _ _ _ a _ b _ c _ d _ e _ f _ _ _ _ _ _ => ⟨a, b, c, d, e, f⟩

end Tld

end Registrar
