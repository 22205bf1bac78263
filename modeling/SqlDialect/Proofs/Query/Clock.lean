import SqlDialect.Proofs.Query.Operation
import SqlDialect.Proofs.Query.Zone
import SqlDialect.Query.Call
import SqlDialect.Zone.Excerpt

/-!
# What the clock has to do with it

The clock is read by one operation only, the conversion of a field to the offset in force, and all
that it reads is the offset in whole minutes. Two runs at different times differ in nothing else:
neither in results and failures nor in what is noted down. Conversely the text of a conversion tells
the field and the offset, since the offset is what follows the last quote but one.

Main statement: `clock_only_tells_offset`.
-/

namespace SqlDialect

namespace Statement.Frame

/-- The characters of a conversion, cut at the quote before the offset. -/
theorem toList_fill_atOffset (offset field : String) :
    ((atOffset offset).fill field).toList =
      "CONVERT_TZ(".toList ++ ((field.toList ++ ", @@session.time_zone, ".toList ++
        '\'' :: offset.toList) ++ "')".toList) := by
  have hquote : ", @@session.time_zone, '".toList = ", @@session.time_zone, ".toList ++ ['\''] := by
    decide
  rw [toList_fill, atOffset, String.toList_append, String.toList_append, hquote]
  simp

/-- A conversion tells the field and the offset to which the field is moved: no quote is in the
offset, so the quote before it is the last but one. -/
theorem fill_atOffset_injective {offset offset' field field' : String}
    (hoffset : '\'' ∉ offset.toList) (hoffset' : '\'' ∉ offset'.toList)
    (h : (atOffset offset).fill field = (atOffset offset').fill field') :
    field = field' ∧ offset = offset' := by
  have hchars := congrArg String.toList h
  rw [toList_fill_atOffset, toList_fill_atOffset] at hchars
  obtain ⟨hfront, hback⟩ := Text.eq_of_append_cons_eq hoffset hoffset'
    (List.append_cancel_right (List.append_cancel_left hchars))
  exact ⟨String.toList_inj.mp (List.append_cancel_right hfront), String.toList_inj.mp hback⟩

end Statement.Frame

namespace Query

open Statement (Frame)

variable {zones : Zone.Lookup}

/-- A conversion that succeeds writes the offset that the zone has then. -/
theorem convertTz_eq_ok {q : Query zones} {now : Instant} {field : Value} {s : String}
    (h : (q.convertTz now field).result = .ok s) :
    s = Rules.convertToOffset field.shown (Zone.offsetText (q.context.zone.offsetAt now)) := by
  rw [convertTz_eq] at h
  split at h
  · cases h
    rfl
  · cases h

/-- Only a conversion reads the clock. -/
theorem perform_of_unzoned (q : Query zones) {call : Call} (h : ∀ field, call ≠ .convertTz field)
    (now later : Instant) : q.perform now call = q.perform later call := by
  cases call with
  | convertTz field => exact absurd rfl (h field)
  | _ => rfl

/-- **The clock only tells the offset**, whatever the lookup of zones is. Whatever the query and the
arguments are, every operation but the conversion has the same result or failure and notes down the
same at any two times; and two conversions that succeed, of any queries at any times, write the same
text exactly if they convert the same field to offsets that are the same in whole minutes. -/
theorem clock_only_tells_offset (zones : Zone.Lookup) :
    (∀ (q : Query zones) (call : Call), (∀ field, call ≠ .convertTz field) →
      ∀ now later : Instant, q.perform now call = q.perform later call) ∧
    ∀ (q q' : Query zones) (now now' : Instant) (field field' s s' : String),
      (q.convertTz now (.text field)).result = .ok s →
      (q'.convertTz now' (.text field')).result = .ok s' →
        (s = s' ↔ field = field' ∧
          q.context.zone.offsetAt now / 60 = q'.context.zone.offsetAt now' / 60) := by
  refine ⟨fun q call h now later => q.perform_of_unzoned h now later, ?_⟩
  intro q q' now now' field field' s s' hs hs'
  obtain rfl := convertTz_eq_ok hs
  obtain rfl := convertTz_eq_ok hs'
  rw [← Zone.offsetText_eq_iff, ← Frame.fill_atOffset, ← Frame.fill_atOffset]
  constructor
  · exact Frame.fill_atOffset_injective (Zone.quote_notMem_offsetText _)
      (Zone.quote_notMem_offsetText _)
  · rintro ⟨rfl, hoffset⟩
    rw [hoffset]

/-- In 1890 the clocks of Caracas were moved by four seconds, within one minute of their distance
from UTC: a conversion is written alike before and after, by either engine. -/
theorem conversion_across_four_seconds :
    (⟨.doris, "America/Caracas", .null, by decide +kernel⟩ : Query Zone.excerpt).perform
        ⟨-2524505537⟩ .unixTimestamp =
      (⟨.doris, "America/Caracas", .null, by decide +kernel⟩ : Query Zone.excerpt).perform
        ⟨-2524505536⟩ .unixTimestamp ∧
    ∃ s s' : String,
      ((⟨.doris, "America/Caracas", .null, by decide +kernel⟩ : Query Zone.excerpt).convertTz
          ⟨-2524505537⟩ (.text "t")).result = .ok s ∧
      ((⟨.mysql, "America/Caracas", .null, by decide +kernel⟩ : Query Zone.excerpt).convertTz
          ⟨-2524505536⟩ (.text "t")).result = .ok s' ∧
      s = s' := by
  have hsucceeds (q : Query Zone.excerpt) (now : Instant) (h : q.context.zone.showsTime now = true) :
      ∃ s, (q.convertTz now (.text "t")).result = .ok s := by
    rw [convertTz_eq, if_pos h]
    exact ⟨_, rfl⟩
  obtain ⟨hother, hconvert⟩ := clock_only_tells_offset Zone.excerpt
  refine ⟨hother _ .unixTimestamp (by simp) _ _, ?_⟩
  obtain ⟨s, hs⟩ := hsucceeds ⟨.doris, "America/Caracas", .null, by decide +kernel⟩ ⟨-2524505537⟩
    (by decide +kernel)
  obtain ⟨s', hs'⟩ := hsucceeds ⟨.mysql, "America/Caracas", .null, by decide +kernel⟩ ⟨-2524505536⟩
    (by decide +kernel)
  exact ⟨s, s', hs, hs', (hconvert _ _ _ _ _ _ s s' hs hs').mpr ⟨rfl, by decide +kernel⟩⟩

end Query

end SqlDialect
