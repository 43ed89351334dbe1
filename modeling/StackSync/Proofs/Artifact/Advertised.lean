import StackSync.Artifact.Digest
import StackSync.Proofs.Archive.Plain
import StackSync.Proofs.Text.Cutting

/-!
# The digest that is advertised

An artifact comes with the digest its bytes must have. It is read without regard to case, which is
sound because digests are computed in lower case (`toAsciiLower_hexDigest`): whoever advertises the
computed digest is understood. What cannot be read as a digest is refused, and so is an artifact
that comes without one.
-/

namespace StackSync

/-! ## Computed digests -/

namespace Digest.Algorithm

theorem exists_of_mem_hexDigest {a : Algorithm} {data : ByteArray} {c : Char}
    (h : c ∈ (a.hexDigest data).toList) : ∃ n < 16, c = Text.hexDigit n := by
  simp only [hexDigest, Text.hexOfBytes, String.toList_ofList, List.mem_flatMap, List.mem_cons,
    List.not_mem_nil, or_false] at h
  obtain ⟨b, -, hc | hc⟩ := h
  · have hb : b.toNat < 256 := b.toNat_lt
    exact ⟨_, by omega, hc⟩
  · exact ⟨_, Nat.mod_lt _ (by omega), hc⟩

theorem toAsciiLower_hexDigest (a : Algorithm) (data : ByteArray) :
    Text.toAsciiLower (a.hexDigest data) = a.hexDigest data := by
  have hdigit : ∀ n < 16, Text.asciiLower (Text.hexDigit n) = Text.hexDigit n := by decide
  have hlower : ∀ c ∈ (a.hexDigest data).toList, Text.asciiLower c = c := by
    intro c hc
    obtain ⟨n, hn, rfl⟩ := exists_of_mem_hexDigest hc
    exact hdigit n hn
  rw [Text.toAsciiLower, List.map_congr_left hlower, List.map_id', String.ofList_toList]

theorem length_hexDigest_sha256 (data : ByteArray) : (sha256.hexDigest data).length = 64 := by
  have hbytes : ∀ data, (Sha256.sha256 data).length = 32 := fun data => rfl
  simp [hexDigest, Text.hexOfBytes, toList_eq_data, List.length_flatMap, List.map_const', hbytes]

end Digest.Algorithm

/-! ## Digests that are read -/

/-- The digest, or else the checksum, says what the digest of the bytes is. -/
inductive Artifact.Advertises (a : Artifact) : Digest.Algorithm → String → Prop where
  | digest {algorithm : Digest.Algorithm} {hex : String} :
      a.digest = some (algorithm.name ++ ":" ++ hex) → a.Advertises algorithm hex
  | checksum {hex : String} : a.digest ∈ [none, some ""] → a.checksum = some hex → hex ≠ "" →
      a.Advertises .sha256 hex

theorem Digest.Algorithm.eq_name_of_ofName? {s : String} {a : Algorithm} (h : ofName? s = some a) :
    s = a.name := by
  unfold ofName? at h
  split at h <;> cases h <;> rfl

theorem ArtifactDigest.parse_name (algorithm : Digest.Algorithm) (hex : String) :
    parse (algorithm.name ++ ":" ++ hex) = .ok ⟨algorithm, Text.toAsciiLower hex⟩ := by
  have hcolon : ':' ∉ algorithm.name.toList := by cases algorithm <;> simp [Digest.Algorithm.name]
  have htext : (algorithm.name ++ ":" ++ hex).toList =
      algorithm.name.toList ++ ':' :: hex.toList := by
    simp
  simp [parse, htext, Text.cut?_append hcolon, Digest.Algorithm.ofName?_name]

/-- What is not an algorithm, a colon and digits is not taken for a digest. -/
theorem ArtifactDigest.parse_of_unusable {digest : String}
    (h : ∀ (algorithm : Digest.Algorithm) hex, digest ≠ algorithm.name ++ ":" ++ hex) :
    parse digest = .error (.unsupportedDigest digest) := by
  unfold parse
  split
  · rfl
  · next name hex hcut =>
    split
    · rfl
    · next algorithm hname =>
      obtain ⟨hdigest, -⟩ := Text.cut?_eq_some hcut
      have hwritten : digest = algorithm.name ++ ":" ++ String.ofList hex := by
        rw [← Digest.Algorithm.eq_name_of_ofName? hname, ← String.toList_inj, hdigest]
        simp
      exact absurd hwritten (h algorithm (String.ofList hex))

theorem nonEmpty?_eq_some {s : String} (h : s ≠ "") : nonEmpty? (some s) = some s := by
  simp [nonEmpty?, h]

theorem nonEmpty?_eq_none {s : Option String} (h : s ∈ [none, some ""]) : nonEmpty? s = none := by
  rcases List.mem_cons.1 h with rfl | h
  · rfl
  · obtain rfl := List.mem_singleton.1 h
    rfl

namespace Artifact

variable {a : Artifact}

theorem requiredDigest_of_advertises {algorithm : Digest.Algorithm} {hex : String}
    (h : a.Advertises algorithm hex) :
    a.requiredDigest = .ok ⟨algorithm, Text.toAsciiLower hex⟩ := by
  unfold requiredDigest
  cases h with
  | digest hdigest =>
    have hne : algorithm.name ++ ":" ++ hex ≠ "" := by simp
    rw [hdigest, nonEmpty?_eq_some hne]
    exact ArtifactDigest.parse_name algorithm hex
  | checksum hdigest hchecksum hne =>
    rw [nonEmpty?_eq_none hdigest, hchecksum, nonEmpty?_eq_some hne]

theorem requiredDigest_of_unusable {digest : String} (h : a.digest = some digest)
    (hne : digest ≠ "")
    (hunusable : ∀ (algorithm : Digest.Algorithm) hex, digest ≠ algorithm.name ++ ":" ++ hex) :
    a.requiredDigest = .error (.unsupportedDigest digest) := by
  rw [requiredDigest, h, nonEmpty?_eq_some hne]
  exact ArtifactDigest.parse_of_unusable hunusable

theorem requiredDigest_of_missing (hdigest : a.digest ∈ [none, some ""])
    (hchecksum : a.checksum ∈ [none, some ""]) : a.requiredDigest = .error .missingDigest := by
  rw [requiredDigest, nonEmpty?_eq_none hdigest, nonEmpty?_eq_none hchecksum]

end Artifact

end StackSync
