import ClusterConf.Machine.Lock
import ClusterConf.Proofs.CodecLaws
import ClusterConf.Proofs.JsonPrefixes
import ClusterConf.Proofs.TimestampTexts
set_option autoImplicit false

/-!
The texts of lock files. Main statements: a lock is read as it was written, and nothing is read of a
text that was cut off before its end.
-/
namespace ClusterConf

open Json (reread)

theorem Json.toList_pretty_record (m : String × Document) (members : List (String × Document)) :
    ∃ body, (pretty (.record (m :: members))).toList = '\x7b' :: (body ++ ['\x7d']) := by
  obtain ⟨name, d⟩ := m
  let opened := "" ++ "\x7b" ++ newLine 1 ++ quote name ++ ": "
  obtain ⟨first, ts, written, -⟩ := pretty_denotes d opened 1
  obtain ⟨tail, us, more, -⟩ := prettyMembers_extends members (prettyOnto opened 1 d) 1
  have whole : pretty (.record ((name, d) :: members)) =
      prettyMembers (prettyOnto opened 1 d) 1 false members ++ newLine 0 ++ "\x7d" := rfl
  refine ⟨(newLine 1 ++ quote name ++ ": ").toList ++ first ++ tail ++ (newLine 0).toList, ?_⟩
  rw [whole, String.toList_append, String.toList_append, more, written]
  simp [opened]

/-- Of an indented record whose end is cut off nothing is read. -/
theorem Json.read?_cut {m : String × Document} {members : List (String × Document)}
    {front back : List Char}
    (split : (pretty (.record (m :: members))).toList = front ++ back) (cut : back ≠ []) :
    read? (String.ofList front) = none := by
  obtain ⟨body, enclosed⟩ := toList_pretty_record m members
  rw [enclosed] at split
  cases front with
  | nil => rfl
  | cons c front =>
    obtain ⟨rfl, rest⟩ := List.cons.inj split
    rw [Option.eq_none_iff_forall_ne_some]
    intro d read
    have whole : read? (String.ofList ('\x7b' :: front ++ back)) =
        some (reread (.record (m :: members))) := by
      rw [← split, ← enclosed, String.ofList_toList]
      exact read?_pretty _
    have blank := blank_of_read? read whole
    rcases List.eq_nil_or_concat back with rfl | ⟨others, c, rfl⟩
    · exact cut rfl
    · have final : body ++ ['\x7d'] = (front ++ others) ++ [c] := by simpa using rest
      obtain ⟨-, brace⟩ := List.append_inj' final rfl
      have printed := blank c (by simp)
      rw [← (List.cons.inj brace).1] at printed
      cases printed

theorem toUTF8_of_fromUTF8? {bytes : ByteArray} {s : String}
    (decoded : String.fromUTF8? bytes = some s) : bytes = s.toUTF8 := by
  unfold String.fromUTF8? at decoded
  split at decoded
  · obtain rfl := Option.some.inj decoded
    rfl
  · cases decoded

/-- A text whose bytes begin those of another one is a beginning of the other. -/
theorem chars_of_bytes {s t : String} {rest : ByteArray} (split : t.toUTF8 = s.toUTF8 ++ rest) :
    ∃ back, t.toList = s.toList ++ back ∧ (rest ≠ .empty → back ≠ []) := by
  have bytes : s.toList.utf8Encode ++ rest = t.toList.utf8Encode := by
    rw [String.utf8Encode_toList, String.utf8Encode_toList]
    exact split.symm
  obtain ⟨back, whole⟩ := List.isPrefix_of_utf8Encode_append_eq_utf8Encode rest bytes
  refine ⟨back, whole.symm, fun some none => some ?_⟩
  rw [none, List.append_nil] at whole
  rw [whole] at bytes
  exact (ByteArray.append_right_inj _).mp (bytes.trans ByteArray.append_empty.symm)

namespace LockInfo

/-- Both points in time of a lock are such as a clock shows. -/
structure Plain (info : LockInfo) : Prop where
  acquired : info.acquiredAt.Plain
  expires : info.expiresAt.Plain

theorem read_timestamp {t : Timestamp} (plain : t.Plain) :
    timestamp.read Document.source (reread (timestamp.write t)) = pure t := by
  have text := Codec.faithful_text.reads Json.rendering t.zuluText
  change (Document.source.readText (reread (.text t.zuluText)) >>= fun s =>
    (liftM (Timestamp.ofText? s) : Reading Timestamp)) = pure t
  have same : Document.source.readText (reread (.text t.zuluText)) = pure t.zuluText := text
  rw [same, pure_bind, Timestamp.ofText?_zuluText plain]
  rfl

theorem ofText?_toText {info : LockInfo} (plain : info.Plain) :
    ofText? info.toText = some info := by
  have members : Document.source.readMembers (reread (layout.write info)) = pure [
      ("lock_id", reread (.text info.lockId)), ("holder", reread (.text info.holder)),
      ("host", reread (.text info.host)), ("pid", reread (Codec.word32.write info.pid)),
      ("acquired_at", reread (timestamp.write info.acquiredAt)),
      ("expires_at", reread (timestamp.write info.expiresAt))] :=
    Json.rendering.readMembers_eq _
  have pid : Codec.word32.read Document.source (reread (Codec.word32.write info.pid)) =
      pure info.pid := Codec.faithful_word32.reads Json.rendering info.pid
  have acquired := read_timestamp plain.acquired
  have expires := read_timestamp plain.expires
  have read : layout.readMembers Document.source [
      ("lock_id", reread (.text info.lockId)), ("holder", reread (.text info.holder)),
      ("host", reread (.text info.host)), ("pid", reread (Codec.word32.write info.pid)),
      ("acquired_at", reread (timestamp.write info.acquiredAt)),
      ("expires_at", reread (timestamp.write info.expiresAt))] [] layout.blank =
        pure (["expires_at", "acquired_at", "pid", "host", "holder", "lock_id"], info) := by
    simp [Layout.readMembers, Layout.field?, layout, Layout.assign, Field.of, pid, acquired,
      expires]
    rfl
  rw [ofText?, toText, Json.read?_pretty, Option.bind_some, Codec.read?]
  change ((Document.source.readMembers _ >>= fun members =>
    layout.readMembers Document.source members [] layout.blank >>= fun p =>
      if layout.strict && p.1.length != layout.fields.length then failure else pure p.2).run' 0) = _
  rw [members, pure_bind, read, pure_bind]
  rfl

/-- Nothing is read of a lock file whose end is missing. -/
theorem ofText?_cut {info : LockInfo} {front back : List Char}
    (split : info.toText.toList = front ++ back) (cut : back ≠ []) :
    ofText? (String.ofList front) = none := by
  have none : Json.read? (String.ofList front) = none := Json.read?_cut split cut
  rw [ofText?, none]
  rfl

theorem toText_ne_empty (info : LockInfo) : info.toText.toUTF8 ≠ .empty := by
  intro empty
  obtain ⟨body, enclosed⟩ : ∃ body, info.toText.toList = '\x7b' :: (body ++ ['\x7d']) :=
    Json.toList_pretty_record _ _
  rw [String.toUTF8_eq_toByteArray, String.toByteArray_eq_empty_iff] at empty
  rw [empty] at enclosed
  cases enclosed

end LockInfo

end ClusterConf
