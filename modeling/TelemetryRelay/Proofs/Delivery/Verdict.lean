import TelemetryRelay.Delivery.Client
import TelemetryRelay.Proofs.Text.Offsets

namespace TelemetryRelay.Client

theorem verdict_eq (status : Nat) (text : String) :
    verdict status text =
      if 200 ≤ status ∧ status ≤ 299 then .ok ()
      else .error (.rejected status (Utf8.truncate 256 text)) := by
  simp [verdict, isSuccess, maxErrorBody]

theorem post_answered {network : Request → Option (Nat × String)} {request : Request}
    {status : Nat} {text : String} (answered : network request = some (status, text)) :
    post network request = verdict status text := by
  rw [post, answered]

/-- An answer with any status and any text decides alike for a record and for a batch: they are
accepted exactly if the status is one from 200 to 299, and otherwise that status is reported with
the longest beginning of the text that has at most 256 bytes. This is the whole text if it has no
more bytes, and else has at least 253 of them: the search for the end goes back from 256 by at most
three offsets, all of which lie within a character, to one between two characters, and what is kept
are the bytes before it. -/
theorem answer_decides (c : Client) (network : Request → Option (Nat × String)) (status : Nat)
    (text : String) : ∃ kept,
      (∀ line, network (c.lineRequest line) = some (status, text) →
        c.sendLine network line =
          if 200 ≤ status ∧ status ≤ 299 then .ok () else .error (.rejected status kept)) ∧
      (∀ stream, network (c.batchRequest stream) = some (status, text) →
        c.sendBatch network stream =
          if 200 ≤ status ∧ status ≤ 299 then .ok () else .error (.rejected status kept)) ∧
      Utf8.IsLongestWithin 256 text kept ∧
      (text.utf8ByteSize ≤ 256 → kept = text) ∧
      (256 < text.utf8ByteSize → 253 ≤ kept.utf8ByteSize ∧ kept.utf8ByteSize ≤ 256 ∧
        ∃ back ≤ 3, Utf8.cutBack text.toList 256 = 256 - back ∧
          Utf8.encode kept = (Utf8.encode text).take (256 - back) ∧
          Utf8.isBoundary text.toList (256 - back) = true ∧
          ∀ j < back, Utf8.isBoundary text.toList (256 - j) = false) := by
  refine ⟨Utf8.truncate 256 text, fun line answered => ?_, fun stream answered => ?_,
    Utf8.truncate_isLongestWithin 256 text, Utf8.truncate_of_le, fun long => ?_⟩
  · rw [sendLine, post_answered answered, verdict_eq]
  · rw [sendBatch, post_answered answered, verdict_eq]
  · obtain ⟨size, bytes⟩ := Utf8.encode_truncate long
    have within : 256 ≤ Utf8.size text.toList := by
      rw [← Utf8.utf8ByteSize_eq]
      exact long.le
    obtain ⟨back, few, -, cut, boundary, inside⟩ := Utf8.exists_cutBack within
    rw [cut] at size bytes
    exact ⟨by omega, by omega, back, few, cut, bytes, boundary, inside⟩

/-- What a busy server says; the last character has the bytes from offset 254 up to 257. -/
def busyText : String :=
  String.ofList (List.replicate 254 'x' ++ ['😀'])

/-- The answer of a busy server, cut off before the last character of its text. -/
theorem busyServer_decides :
    let c : Client :=
      ⟨{ scheme := "http", host := some (.name "localhost"), path := .segments [] }, "secret"⟩
    c.sendLine (fun _ => some (503, busyText)) "m v=1i 1" =
      .error (.rejected 503 (String.ofList (List.replicate 254 'x'))) := by
  intro c
  obtain ⟨kept, sent, -, longest, -⟩ :=
    answer_decides c (fun _ => some (503, busyText)) 503 busyText
  have size : Utf8.size (List.replicate 254 'x') = 254 := Utf8.size_replicate 254 'x'
  have cut := longest.eq_of_concat (by omega) (by rw [size]; decide)
  rw [sent "m v=1i 1" rfl, cut]
  rfl

end TelemetryRelay.Client
