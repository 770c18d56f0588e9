/-
Canonical hashing of immutable snapshots.

A snapshot is hashed through its canonical JSON text.  The digest itself is a parameter:
`hexdigest` stands for `hashlib.sha256(..).hexdigest()`.
-/
import Arena402.Lib.Json

namespace Arena402

open Py

/-- `canonical_json_bytes`, of a value made of JSON values only. -/
def canonicalJsonBytes (value : Json) : ByteArray :=
  value.encode

/-- `hash.removeprefix("sha256:")`. -/
def withoutScheme (hash : String) : String :=
  let cs := hash.toList
  String.ofList (if "sha256:".toList.isPrefixOf cs then cs.drop 7 else cs)

/-- Two byte strings that do not collide. -/
def NoCollision (hexdigest : ByteArray → String) (x y : ByteArray) : Prop :=
  hexdigest x = hexdigest y → x = y

section

variable (hexdigest : ByteArray → String)

/-- `sha256_identifier`. -/
def sha256Identifier (value : Json) : String :=
  "sha256:" ++ hexdigest (canonicalJsonBytes value)

/-- `sha256_text_identifier`. -/
def sha256TextIdentifier (value : String) : String :=
  "sha256:" ++ hexdigest value.toByteArray

/-- The EIP-3009 nonce of an intent hash: `"0x" + hash.removeprefix("sha256:")`. -/
def expectedNonce (intentHash : String) : String :=
  "0x" ++ withoutScheme intentHash

theorem withoutScheme_sha256Identifier (value : Json) :
    withoutScheme (sha256Identifier hexdigest value) = hexdigest (canonicalJsonBytes value) := by
  have hchars : (sha256Identifier hexdigest value).toList
      = "sha256:".toList ++ (hexdigest (canonicalJsonBytes value)).toList := by
    simp [sha256Identifier]
  have hstart : "sha256:".toList.isPrefixOf
      ("sha256:".toList ++ (hexdigest (canonicalJsonBytes value)).toList) = true := by
    simp
  unfold withoutScheme
  dsimp only
  rw [hchars, if_pos hstart]
  simp

variable {hexdigest}

/-- Equal identifiers are the identifiers of one text, short of a collision. -/
theorem bytes_of_sha256Identifier {a b : Json}
    (hfree : NoCollision hexdigest (canonicalJsonBytes a) (canonicalJsonBytes b))
    (h : sha256Identifier hexdigest a = sha256Identifier hexdigest b) :
    canonicalJsonBytes a = canonicalJsonBytes b := by
  have hdigest := congrArg withoutScheme h
  rw [withoutScheme_sha256Identifier, withoutScheme_sha256Identifier] at hdigest
  exact hfree hdigest

/-- Equal text identifiers are the identifiers of one text, short of a collision. -/
theorem text_of_sha256TextIdentifier {a b : String}
    (hfree : NoCollision hexdigest a.toByteArray b.toByteArray)
    (h : sha256TextIdentifier hexdigest a = sha256TextIdentifier hexdigest b) : a = b := by
  have hchars := congrArg String.toList h
  unfold sha256TextIdentifier at hchars
  rw [String.toList_append, String.toList_append] at hchars
  have hdigest := String.toList_inj.mp (List.append_cancel_left hchars)
  exact String.toByteArray_inj.mp (hfree hdigest)

/-- Equal nonces are the nonces of one text, short of a collision. -/
theorem bytes_of_expectedNonce {a b : Json}
    (hfree : NoCollision hexdigest (canonicalJsonBytes a) (canonicalJsonBytes b))
    (h : expectedNonce (sha256Identifier hexdigest a)
      = expectedNonce (sha256Identifier hexdigest b)) :
    canonicalJsonBytes a = canonicalJsonBytes b := by
  unfold expectedNonce at h
  rw [withoutScheme_sha256Identifier, withoutScheme_sha256Identifier] at h
  have hchars := congrArg String.toList h
  rw [String.toList_append, String.toList_append] at hchars
  exact hfree (String.toList_inj.mp (List.append_cancel_left hchars))

end

end Arena402
