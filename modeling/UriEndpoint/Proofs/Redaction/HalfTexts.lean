import UriEndpoint.Proofs.Redaction.QueriedUri
import UriEndpoint.Proofs.Value.Equality
import UriEndpoint.Redaction.Event

/-! # Masking a spelled text

A text with half a surrogate pair is masked as it is spelled. Spelling touches no delimiter and no
sensitive name, so masking what is spelled is spelling what is masked (`unspelled_maskedUri`), and a
text comes out the same whether it is spelled or not.
-/

namespace UriEndpoint.Redaction

theorem backslash_mem_lowercase {name : Text} (member : '\\' ∈ name) : '\\' ∈ name.lowercase := by
  have small : Text.lowered '\\' = ['\\'] := by decide +kernel
  exact List.mem_flatMap.mpr ⟨'\\', member, by rw [small]; exact List.mem_singleton_self _⟩

/-- No sensitive name holds a backslash. -/
theorem isSensitive_of_backslash {name : Text} (member : '\\' ∈ name) :
    isSensitive name = false := by
  have plain : ∀ sensitive ∈ sensitiveNames, '\\' ∉ sensitive := by decide
  rw [isSensitive, ← Bool.not_eq_true, List.contains_iff_mem]
  exact fun among => plain _ among (backslash_mem_lowercase member)

/-- A name is as sensitive as it is spelled. -/
theorem isSensitive_unspelled (name : Text) : isSensitive name.unspelled = isSensitive name := by
  by_cases member : '\\' ∈ name
  · rw [isSensitive_of_backslash member,
      isSensitive_of_backslash (Text.mem_unspelled.mpr member)]
  · rw [Text.unspelled_of_not_mem member]

theorem maskedEntry_unspelled (entry : Text) :
    maskedEntry entry.unspelled = (maskedEntry entry).unspelled := by
  have equals : '=' ≠ '\\' := by decide
  obtain ⟨name, tail, plain, rfl⟩ := Text.exists_eq_append_opened '=' entry
  have namePlain : '=' ∉ name.unspelled := Text.mem_unspelled.not.mpr plain
  rw [Text.unspelled_opened equals]
  cases tail with
  | none =>
      simp only [Text.opened, Option.map_none, List.append_nil]
      rw [maskedEntry_of_not_mem plain, maskedEntry_of_not_mem namePlain]
  | some value =>
      simp only [Text.opened, Option.map_some]
      rw [maskedEntry_append plain, maskedEntry_append namePlain, isSensitive_unspelled,
        Text.unspelled_append_mark equals]
      cases isSensitive name <;> rfl

namespace QueriedUri

variable (parts : QueriedUri)

/-- The division of what a spelled URI stands for. -/
def unspelled : QueriedUri where
  head := parts.head.unspelled
  entries := parts.entries.map Text.unspelled
  fragment := parts.fragment.map Text.unspelled
  head_plain := Text.mem_unspelled.not.mpr parts.head_plain
  entries_plain := by
    intro entry member
    obtain ⟨spelled, among, rfl⟩ := List.mem_map.mp member
    rw [Text.mem_unspelled, Text.mem_unspelled]
    exact parts.entries_plain spelled among
  entries_ne_nil := List.map_eq_nil_iff.not.mpr parts.entries_ne_nil

theorem written_unspelled : parts.unspelled.written = parts.written.unspelled := by
  rw [written, written, Text.unspelled_append_mark (by decide), Text.unspelled_opened (by decide),
    query, query, Text.unspelled_joined (by decide)]
  rfl

theorem masked_unspelled : parts.unspelled.masked = parts.masked.unspelled := by
  apply QueriedUri.ext
  · rfl
  · simp only [masked, unspelled, List.map_map]
    exact List.map_congr_left fun entry _ => maskedEntry_unspelled entry
  · rfl

end QueriedUri

/-- **Masking goes through spelling.** -/
theorem unspelled_maskedUri (uri : Text) : (maskedUri uri).unspelled = maskedUri uri.unspelled := by
  by_cases marked : '?' ∈ uri
  · obtain ⟨parts, rfl⟩ := QueriedUri.exists_written marked
    rw [maskedUri_written, ← QueriedUri.written_unspelled, ← QueriedUri.written_unspelled,
      maskedUri_written, QueriedUri.masked_unspelled]
  · rw [maskedUri_of_not_mem marked, maskedUri_of_not_mem (Text.mem_unspelled.not.mpr marked)]

example : maskedValue "url".toList (.halfText "x?a=\\ud800&key=\\udc00".toList) =
    .halfText "x?a=\\ud800&key=[REDACTED]".toList := by
  decide +kernel

end UriEndpoint.Redaction
