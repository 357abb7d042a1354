import TemplateMap.Blob
import TemplateMap.Proofs.Text.Latin1

/-! Blobs between their tokens: a blob is found whole when the start token first occurs at its
beginning and the end token first occurs at its end, whatever bytes follow. -/

namespace TemplateMap

/-- An ASCII text that a search for the tokens finds whole. -/
structure IsBlob (start finish blob : Text) : Prop where
  ascii : IsAscii blob
  start : start <+: blob
  finish : EndsAtFirst finish blob

namespace IsBlob

variable {start finish blob : Text}

theorem ascii_start (h : IsBlob start finish blob) : IsAscii start :=
  fun c hc => h.ascii c (h.start.subset hc)

theorem ascii_finish (h : IsBlob start finish blob) : IsAscii finish := by
  obtain ⟨n, hn, -⟩ := h.finish
  intro c hc
  have hat := (firstOccurrence?_eq_some_iff.mp hn).1
  exact h.ascii c (List.mem_of_mem_drop (hat.subset hc))

end IsBlob

theorem findBlob_append {start finish : Text} {before blob : Bytes}
    (hstart : firstOccurrence? (Utf8.encode start) (before ++ blob) = some before.length)
    (hfinish : EndsAtFirst (Utf8.encode finish) blob) (after : Bytes) :
    findBlob (before ++ blob ++ after) start finish = .ok blob := by
  obtain ⟨n, hn, hend⟩ := hfinish
  rw [findBlob, firstOccurrence?_append hstart]
  simp only [List.append_assoc, List.drop_left, firstOccurrence?_append hn, hend, List.take_left]

/-- In ASCII texts a blob is found where its start token first occurs. -/
theorem IsBlob.findBlob_encode {start finish before blob : Text} (h : IsBlob start finish blob)
    (hbefore : IsAscii before)
    (hstart : firstOccurrence? start (before ++ blob) = some before.length) (after : Text) :
    findBlob (Utf8.encode (before ++ blob ++ after)) start finish = .ok (Utf8.encode blob) := by
  rw [Utf8.encode_append, Utf8.encode_append]
  refine findBlob_append ?_ ?_ _
  · have hascii := IsAscii.append_iff.mpr ⟨hbefore, h.ascii⟩
    rw [← Utf8.encode_append, Utf8.length_encode hbefore,
      Utf8.firstOccurrence?_encode h.ascii_start hascii, hstart]
  · exact Utf8.endsAtFirst_encode h.ascii_finish h.finish

end TemplateMap
