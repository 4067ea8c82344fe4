import RowStream.Proofs.FeedOutcomes
import RowStream.Proofs.ManifestTotals
import RowStream.Proofs.OptionCalls

/-! # What a response opens

A cursor or a stream of batches that nobody has used: what it has of its response, and the chunks that are on their
way to it. -/
namespace RowStream
open RowStream.Columnar RowStream.Number

namespace Manifest

theorem ofResponse_eq_ok {r : Response} {n : Nat} {m : Manifest} :
    ofResponse r n = .ok m ↔ Accepts r.chunks n r.total ∧ m = ⟨r.chunks.mapIdx descriptor, n⟩ := ofEntries_eq_ok

/-- Only a declared total can stop the program, and only with `2 ^ 63` rows or more. -/
theorem ofResponse_overflow {r : Response} {n : Nat} {o : Overflow} (h : ofResponse r n = .error (.overflow o)) :
    r.total.isSome ∧ 2 ^ 63 ≤ rows n r.chunks := by
  have sound : Describable [] r.chunks := describable_of_ofEntries h (by simp)
  have number := counted_descriptors sound n
  obtain ⟨t, ht, cases⟩ := checkTotal_eq_overflow.mp ((ofEntries_cases sound).mp h)
  refine ⟨Option.isSome_iff_exists.mpr ⟨t, ht⟩, ?_⟩
  rcases cases with ⟨_, beyond⟩ | ⟨_, fits, _, apart⟩
  · omega
  · have upper := ((apart_iff fits (Nat.le_add_right _ _)).mp apart).1
    omega

end Manifest

theorem Config.Window.unique {c : Config} {ps : List SessionParameter} {m n : Nat} (hm : c.Window ps m)
    (hn : c.Window ps n) : m = n := by
  cases hm with
  | session found positive =>
    cases hn with
    | session found' positive' =>
      obtain rfl := Option.some.inj (found.symm.trans found')
      rw [← readPositive?_eq_some] at positive positive'
      exact Option.some.inj (positive.symm.trans positive')
    | own invalid => exact (invalid _ _ found positive).elim
  | own invalid => exact (hn.eq_of_invalid invalid).symm

/-- The cursor of a response before its first row: everything that it has is that of the response. -/
structure RowCursor.Opens (config : Config) (r : Response) (c : RowCursor) : Prop where
  format : ResultFormat.ofName r.formatName = .ok c.plan.format
  schema : c.plan.schema = r.schema
  options : c.plan.options = ⟨config.higherPrecision, OutputFormats.ofParameters r.parameters⟩
  inline : ∃ rows, Decode.inlineRows c.plan.format r.schema c.plan.options r = .ok rows ∧
    c.plan.manifest.inlineRows = rows.length ∧ c.inline = if rows.isEmpty then none else some rows
  chunks : c.plan.manifest.chunks = r.chunks.mapIdx Manifest.descriptor
  accepted : Manifest.Accepts r.chunks c.plan.manifest.inlineRows r.total
  feed : ∃ limit, config.Window r.parameters limit ∧ c.feed = .begun r.chunks.length limit
  unread : c.current = none ∧ c.position = none ∧ c.state = {} ∧ c.closed = false

/-- The stream of a columnar response before its first batch. -/
structure BatchStream.Opens (config : Config) (r : Response) (s : BatchStream) : Prop where
  format : ResultFormat.ofName r.formatName = .ok .arrow
  schema : s.plan.schema = r.schema
  batchOptions : s.plan.batchOptions = ⟨config.higherPrecision, config.timestampUnit⟩
  options : s.plan.options = ⟨config.higherPrecision, OutputFormats.ofParameters r.parameters⟩
  inline : ∃ raw, readStream (r.encodedRowset.getD []) = .ok raw ∧
    convertAll s.plan.batchOptions s.plan.options r.schema raw = .ok s.buffer
  inlineRows : s.plan.manifest.inlineRows = totalRows s.buffer
  chunks : s.plan.manifest.chunks = r.chunks.mapIdx Manifest.descriptor
  accepted : Manifest.Accepts r.chunks s.plan.manifest.inlineRows r.total
  feed : ∃ limit, config.Window r.parameters limit ∧ s.feed = .begun r.chunks.length limit
  unread : s.exhausted = false

namespace Pipeline
variable {config : Config} {r : Response} {c : RowCursor} {s : BatchStream}

/-- Of what a session changes only the window counts for the feed. -/
theorem feed_of_window {α : Type} {m : Manifest} {limit : Nat} (window : config.Window r.parameters limit)
    (chunks : m.chunks = r.chunks.mapIdx Manifest.descriptor) :
    ({ prefetch := startPrefetch (config.applyParameters r.parameters) m } : Feed α) =
      .begun r.chunks.length limit := by
  obtain ⟨n, other, same⟩ := config.applyParameters_eq r.parameters
  obtain rfl := window.unique other
  rw [Feed.startPrefetch_eq, chunks, List.length_mapIdx, same]
  rfl

/-- A session leaves alone how leaves are decoded. -/
theorem decodeOptions_applyParameters (config : Config) (ps qs : List SessionParameter) :
    (config.applyParameters ps).decodeOptions qs = ⟨config.higherPrecision, OutputFormats.ofParameters qs⟩ := by
  obtain ⟨_, _, same⟩ := config.applyParameters_eq ps
  rw [same]
  rfl

theorem batchOptions_applyParameters (config : Config) (ps : List SessionParameter) :
    (config.applyParameters ps).batchOptions = ⟨config.higherPrecision, config.timestampUnit⟩ := by
  obtain ⟨_, _, same⟩ := config.applyParameters_eq ps
  rw [same]
  rfl

theorem window_applyParameters (config : Config) (ps : List SessionParameter) :
    config.Window ps (config.applyParameters ps).prefetchLimit := by
  obtain ⟨n, window, same⟩ := config.applyParameters_eq ps
  rw [same]
  exact window

theorem rowCursor_eq_ok : rowCursor config r = .ok c ↔ c.Opens config r := by
  constructor
  · intro h
    obtain ⟨format, named, h⟩ := bind_eq_ok.mp h
    obtain ⟨rows, decoded, h⟩ := bind_eq_ok.mp h
    obtain ⟨manifest, checked, h⟩ := bind_eq_ok.mp h
    obtain ⟨accepted, rfl⟩ := Manifest.ofResponse_eq_ok.mp checked
    obtain rfl := Except.ok.inj h
    have window := window_applyParameters config r.parameters
    exact {
      format := Checked.ofResult_eq_ok.mp named
      schema := rfl
      options := decodeOptions_applyParameters _ _ _
      inline := ⟨rows, Checked.ofResult_eq_ok.mp decoded, rfl, rfl⟩
      chunks := rfl
      accepted := accepted
      feed := ⟨_, window, feed_of_window window rfl⟩
      unread := ⟨rfl, rfl, rfl, rfl⟩ }
  · rintro ⟨format, schema, options, ⟨rows, decoded, counted, inline⟩, chunks, accepted, ⟨limit, window, feed⟩,
      current, position, state, isOpen⟩
    have feed := feed.trans (feed_of_window window chunks).symm
    rw [counted] at accepted
    have manifest : c.plan.manifest = ⟨r.chunks.mapIdx Manifest.descriptor, rows.length⟩ := by
      rw [← chunks, ← counted]
    have checked := Manifest.ofResponse_eq_ok.mpr ⟨accepted, manifest⟩
    rw [← decodeOptions_applyParameters config r.parameters] at options
    refine bind_eq_ok.mpr ⟨_, Checked.ofResult_eq_ok.mpr format, ?_⟩
    refine bind_eq_ok.mpr ⟨rows, Checked.ofResult_eq_ok.mpr (options ▸ decoded), ?_⟩
    refine bind_eq_ok.mpr ⟨_, checked, ?_⟩
    obtain ⟨⟨_, _, _, _⟩, _, _, _, _, _, _⟩ := c
    simp only at *
    subst schema options inline feed current position state isOpen
    rfl

theorem batchStream_eq_ok : batchStream config r = .ok s ↔ s.Opens config r := by
  constructor
  · intro h
    obtain ⟨format, named, h⟩ := bind_eq_ok.mp h
    have named := Checked.ofResult_eq_ok.mp named
    by_cases columnar : format = .arrow
    · rw [if_neg (not_not_intro columnar)] at h
      obtain ⟨raw, parsed, h⟩ := bind_eq_ok.mp h
      obtain ⟨batches, converted, h⟩ := bind_eq_ok.mp h
      obtain ⟨manifest, checked, h⟩ := bind_eq_ok.mp h
      obtain ⟨accepted, rfl⟩ := Manifest.ofResponse_eq_ok.mp checked
      obtain rfl := Except.ok.inj h
      have window := window_applyParameters config r.parameters
      exact {
        format := columnar ▸ named
        schema := rfl
        batchOptions := batchOptions_applyParameters _ _
        options := decodeOptions_applyParameters _ _ _
        inline := ⟨raw, Checked.ofResult_eq_ok.mp parsed, Checked.ofResult_eq_ok.mp converted⟩
        inlineRows := rfl
        chunks := rfl
        accepted := accepted
        feed := ⟨_, window, feed_of_window window rfl⟩
        unread := rfl }
    · rw [if_pos columnar] at h
      cases h
  · rintro ⟨format, schema, batchOptions, options, ⟨raw, parsed, converted⟩, counted, chunks, accepted,
      ⟨limit, window, feed⟩, unread⟩
    have feed := feed.trans (feed_of_window window chunks).symm
    rw [counted] at accepted
    have manifest : s.plan.manifest = ⟨r.chunks.mapIdx Manifest.descriptor, totalRows s.buffer⟩ := by
      rw [← chunks, ← counted]
    have checked := Manifest.ofResponse_eq_ok.mpr ⟨accepted, manifest⟩
    rw [← batchOptions_applyParameters config r.parameters] at batchOptions
    rw [← decodeOptions_applyParameters config r.parameters] at options
    rw [batchOptions, options] at converted
    refine bind_eq_ok.mpr ⟨.arrow, Checked.ofResult_eq_ok.mpr format, ?_⟩
    refine bind_eq_ok.mpr ⟨raw, Checked.ofResult_eq_ok.mpr parsed, ?_⟩
    refine bind_eq_ok.mpr ⟨s.buffer, Checked.ofResult_eq_ok.mpr converted, ?_⟩
    refine bind_eq_ok.mpr ⟨_, checked, ?_⟩
    obtain ⟨⟨_, _, _, _⟩, _, _, _⟩ := s
    simp only at *
    subst schema batchOptions options feed unread
    rfl

/-- Making a cursor stops the program only where a total is declared and there are `2 ^ 63` rows or more. -/
theorem rowCursor_overflow {o : Overflow} (h : rowCursor config r = .error (.overflow o)) :
    r.total.isSome ∧ ∃ format rows, ResultFormat.ofName r.formatName = .ok format ∧
      Decode.inlineRows format r.schema ⟨config.higherPrecision, OutputFormats.ofParameters r.parameters⟩ r = .ok rows ∧
      2 ^ 63 ≤ Manifest.rows rows.length r.chunks := by
  rcases bind_eq_error.mp h with named | ⟨format, named, h⟩
  · exact (Checked.ofResult_ne_overflow named).elim
  rcases bind_eq_error.mp h with decoded | ⟨rows, decoded, h⟩
  · exact (Checked.ofResult_ne_overflow decoded).elim
  rcases bind_eq_error.mp h with checked | ⟨_, _, h⟩
  · obtain ⟨total, large⟩ := Manifest.ofResponse_overflow checked
    rw [← decodeOptions_applyParameters config r.parameters]
    exact ⟨total, format, rows, Checked.ofResult_eq_ok.mp named, Checked.ofResult_eq_ok.mp decoded, large⟩
  · cases h

end Pipeline
end RowStream
