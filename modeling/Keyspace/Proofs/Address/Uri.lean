import Keyspace.Proofs.Text.Decoding
import Keyspace.Proofs.Address.Text

/-! # Addresses and their URIs

    The URI of an absolute address is `s3://` followed by an authority, a
    separator and a path text. The authority encodes the bucket and keeps no
    separator, so the first separator after the scheme ends it. The path text
    encodes the key, but keeps the separators between the segments.

    Decoding can be done for both parts apart, or for all that follows the
    scheme at once; the latter gives the text of the address without its
    leading separator (`decode?_uriTail`), and with it the address.
-/

namespace Keyspace.Address

open Text.Percent

/-! ## Section 1: The parts of a URI -/

/-- The encoded bucket. -/
def authority (b : String) : String := encode [] b

/-- The encoded key. -/
def uriPath (a : Address) : String := encode [separator.toUInt8] a.key

/-- All that follows the scheme. -/
def uriTail (a : Address) (b : String) : String := authority b ++ "/" ++ a.uriPath

theorem uri?_of_bucket {a : Address} {b : String} (hb : a.bucket = some b) :
    a.uri? = some ("s3://" ++ a.uriTail b) := by
  have hstart : uriStart = "s3://" := by decide +kernel
  rw [uri?, hb, Option.map_some, hstart, uriTail, String.append_assoc, String.append_assoc,
    String.append_assoc]
  rfl

theorem text_of_bucket {a : Address} {b : String} (hb : a.bucket = some b) :
    a.text = "/" ++ (b ++ "/" ++ a.key) := by
  apply String.toList_inj.mp
  rw [toList_text_of_bucket hb]
  simp [separator]

/-! ## Section 2: Decoding the parts -/

theorem readable_nil : Readable [] := fun _ h => absurd h List.not_mem_nil

theorem readable_separator : Readable [separator.toUInt8] := by
  intro b hb
  rw [List.mem_singleton.mp hb]
  decide

theorem decode?_authority (b : String) : decode? (authority b) = some b :=
  decode?_encode readable_nil b

theorem decode?_uriPath (a : Address) : decode? a.uriPath = some a.key :=
  decode?_encode readable_separator a.key

/-- The two parts are decoded side by side, although they keep different
    bytes. -/
theorem decode?_uriTail (a : Address) (b : String) :
    decode? (a.uriTail b) = some (b ++ "/" ++ a.key) := by
  -- the separator stands for itself, and the key follows it
  have hsep : decodeBytes? ('/' :: a.uriPath.toList) = some (bytes "/" ++ bytes a.key) := by
    have h := decodeBytes?_literal (b := separator.toUInt8) (by decide) a.uriPath.toList
    rw [uriPath, decodeBytes?_encode readable_separator, Option.map_some] at h
    exact h
  have htail : (a.uriTail b).toList = (encode [] b).toList ++ '/' :: a.uriPath.toList := by
    rw [uriTail, String.toList_append, String.toList_append, List.append_assoc]
    rfl
  apply decode?_of_decodeBytes?
  rw [htail, decodeBytes?_encode_append readable_nil, hsep, Option.map_some, bytes_append,
    bytes_append, List.append_assoc]

/-! ## Section 3: The characters of the parts -/

theorem encoded_authority (b : String) : Encoded IsUnreserved (authority b).toList :=
  encoded_encode (fun _ h => h) (fun _ h => absurd h List.not_mem_nil) b

/-- None of the characters that delimit the parts of a URI occurs in the
    authority. -/
theorem not_mem_authority (b : String) :
    ∀ c ∈ ['/', '?', '#', '@', ':'], c ∉ (authority b).toList := by
  have hmissing (c : Char) (hoff : ¬IsUnreserved c ∧ c ≠ '%' ∧ hexValue? c = none) :
      c ∉ (authority b).toList :=
    (encoded_authority b).not_mem hoff.1 hoff.2.1 hoff.2.2
  simp only [List.forall_mem_cons]
  exact ⟨hmissing _ (by decide), hmissing _ (by decide), hmissing _ (by decide),
    hmissing _ (by decide), hmissing _ (by decide), nofun⟩

theorem encoded_uriTail (a : Address) (b : String) :
    Encoded (fun c => IsUnreserved c ∨ c = '/') (a.uriTail b).toList := by
  have hauthority : Encoded (fun c => IsUnreserved c ∨ c = '/') (authority b).toList :=
    (encoded_authority b).mono fun _ => Or.inl
  have hsep : Encoded (fun c => IsUnreserved c ∨ c = '/') "/".toList := .literal (Or.inr rfl) .nil
  have hpath : Encoded (fun c => IsUnreserved c ∨ c = '/') a.uriPath.toList := by
    refine encoded_encode (fun _ => Or.inl) (fun c hc => ?_) a.key
    rw [List.mem_singleton.mp hc]
    exact Or.inr rfl
  rw [uriTail, String.toList_append, String.toList_append]
  exact (hauthority.append hsep).append hpath

/-- No character after the scheme starts a query or a fragment. -/
theorem not_mem_uriTail (a : Address) (b : String) :
    ∀ c ∈ ['?', '#'], c ∉ (a.uriTail b).toList := by
  have hmissing (c : Char)
      (hoff : ¬(IsUnreserved c ∨ c = '/') ∧ c ≠ '%' ∧ hexValue? c = none) :
      c ∉ (a.uriTail b).toList :=
    (encoded_uriTail a b).not_mem hoff.1 hoff.2.1 hoff.2.2
  simp only [List.forall_mem_cons]
  exact ⟨hmissing _ (by decide), hmissing _ (by decide), nofun⟩

/-! ## Section 4: URIs tell addresses apart -/

theorem uri?_inj {a b : Address} (ha : a.WellFormed) (hb : b.WellFormed)
    (habs : a.isAbsolute = true) (hbbs : b.isAbsolute = true) : a.uri? = b.uri? ↔ a = b := by
  obtain ⟨c, hc⟩ := Option.isSome_iff_exists.mp habs
  obtain ⟨d, hd⟩ := Option.isSome_iff_exists.mp hbbs
  constructor
  · intro h
    rw [uri?_of_bucket hc, uri?_of_bucket hd] at h
    -- equal URIs have equal tails, and those decode to the texts
    have htail : a.uriTail c = b.uriTail d := by
      simpa using h
    have hdecoded : some (c ++ "/" ++ a.key) = some (d ++ "/" ++ b.key) := by
      rw [← decode?_uriTail, ← decode?_uriTail, htail]
    refine (text_inj ha hb).mp ?_
    rw [text_of_bucket hc, text_of_bucket hd, Option.some.inj hdecoded]
  · intro h
    rw [h]

end Keyspace.Address
