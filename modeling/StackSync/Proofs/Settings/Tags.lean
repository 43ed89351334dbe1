import StackSync.Proofs.Text.Cutting
import StackSync.Settings.Tags

/-!
# Tags, rendered and read

A setting renders tags if its entries are, in their order, one rendering for every tag (key, `=` and
value, with white space around either) and any number of entries that count for nothing. All that
there is to show is about one entry: it counts for nothing, or it renders the tag it is read as
(`entry_cases`). The rest is the commas, which divide a text in only one way, so what is read off a
text is what it renders (`parse_undoes_rendering`).
-/

namespace StackSync.Tags

open Text

/-- A tag that can be given: both texts are trimmed, there is a key, and neither has a separator in
it, though `=` may well stand in the value. -/
structure Admissible (tag : KeyValue) : Prop where
  key_ne : tag.key ≠ ""
  key_tight : Tight tag.key.toList
  key_comma : ',' ∉ tag.key.toList
  key_equals : '=' ∉ tag.key.toList
  value_tight : Tight tag.value.toList
  value_comma : ',' ∉ tag.value.toList

/-- Key, `=` and value, and white space around the two. -/
inductive RenderedAs (tag : KeyValue) (entry : String) : Prop
  | spaced (a b c d : String) : Blank a.toList → Blank b.toList → Blank c.toList → Blank d.toList →
      entry = a ++ tag.key ++ b ++ "=" ++ c ++ tag.value ++ d → RenderedAs tag entry

/-- An entry without `=` or with a blank key. -/
inductive CountsForNothing (entry : String) : Prop
  | noEquals : '=' ∉ entry.toList → CountsForNothing entry
  | blankKey (key value : String) : Blank key.toList → entry = key ++ "=" ++ value →
      CountsForNothing entry

/-- The entries between the commas of a setting that gives the tags. -/
inductive Renders : List KeyValue → List String → Prop
  | nil : Renders [] []
  | tag {tag : KeyValue} {entry : String} {tags : List KeyValue} {entries : List String} :
      RenderedAs tag entry → Renders tags entries → Renders (tag :: tags) (entry :: entries)
  | nothing {entry : String} {tags : List KeyValue} {entries : List String} :
      ',' ∉ entry.toList → CountsForNothing entry → Renders tags entries →
      Renders tags (entry :: entries)

variable {tag : KeyValue} {tags : List KeyValue} {entry : String} {entries : List String}

/-! ## One entry -/

/-- White space holds none of the separators. -/
theorem not_mem_of_blank {s : List Char} {c : Char} (h : Blank s) (hc : isBlank c = false) :
    c ∉ s := by
  intro hmem
  rw [h c hmem] at hc
  cases hc

theorem readEntry_eq_bind (s : List Char) :
    entry? s = (cut? '=' s).bind fun parts =>
      if (trimChars parts.1).isEmpty then none
      else some ⟨String.ofList (trimChars parts.1), String.ofList (trimChars parts.2)⟩ := rfl

theorem readEntry_of_renderedAs (htag : Admissible tag) (h : RenderedAs tag entry) :
    entry? entry.toList = some tag := by
  obtain ⟨a, b, c, d, ha, hb, hc, hd, rfl⟩ := h
  have hequals : '=' ∉ a.toList ++ tag.key.toList ++ b.toList := by
    simp only [List.mem_append, not_or]
    exact ⟨⟨not_mem_of_blank ha rfl, htag.key_equals⟩, not_mem_of_blank hb rfl⟩
  have hcut : cut? '=' (a ++ tag.key ++ b ++ "=" ++ c ++ tag.value ++ d).toList =
      some (a.toList ++ tag.key.toList ++ b.toList, c.toList ++ tag.value.toList ++ d.toList) := by
    rw [← cut?_append hequals]
    simp [List.append_assoc]
  have hkey : tag.key.toList.isEmpty = false := by simpa using htag.key_ne
  rw [readEntry_eq_bind, hcut, Option.bind_some, trimChars_append ha htag.key_tight hb, hkey,
    trimChars_append hc htag.value_tight hd, String.ofList_toList, String.ofList_toList]
  rfl

theorem readEntry_of_countsForNothing (h : CountsForNothing entry) :
    entry? entry.toList = none := by
  cases h with
  | noEquals h => rw [readEntry_eq_bind, cut?_eq_none_iff.2 h, Option.bind_none]
  | blankKey key value h hentry =>
    subst hentry
    have hcut : cut? '=' (key ++ "=" ++ value).toList = some (key.toList, value.toList) := by
      have hequals : '=' ∉ key.toList := not_mem_of_blank h rfl
      rw [← cut?_append hequals]
      simp
    rw [readEntry_eq_bind, hcut, Option.bind_some, trimChars_eq_nil_iff.2 h]
    rfl

/-- Key and value as they are cut out of an entry and trimmed. -/
theorem renderedAs_of_cut {key value : List Char} (h : entry.toList = key ++ '=' :: value) :
    RenderedAs ⟨String.ofList (trimChars key), String.ofList (trimChars value)⟩ entry := by
  obtain ⟨a, b, ha, hb, hkey⟩ := exists_eq_append_trimChars key
  obtain ⟨c, d, hc, hd, hvalue⟩ := exists_eq_append_trimChars value
  have hparts := congrArg₂ (fun key value => key ++ '=' :: value) hkey hvalue
  refine .spaced (String.ofList a) (String.ofList b) (String.ofList c) (String.ofList d)
    (by rwa [String.toList_ofList]) (by rwa [String.toList_ofList]) (by rwa [String.toList_ofList])
    (by rwa [String.toList_ofList]) ?_
  rw [← String.toList_inj, h]
  refine hparts.trans ?_
  simp

/-- The key that is cut out has no `=`, and what is trimmed has no more separators than before. -/
theorem admissible_of_cut {key value : List Char} (hcut : '=' ∉ key)
    (hcomma : ',' ∉ key ++ '=' :: value) (hblank : ¬Blank key) :
    Admissible ⟨String.ofList (trimChars key), String.ofList (trimChars value)⟩ := by
  have hsub : ∀ {s : List Char} {c : Char}, c ∈ trimChars s → c ∈ s := by
    intro s c hc
    obtain ⟨before, behind, -, -, hs⟩ := exists_eq_append_trimChars s
    rw [hs]
    exact List.mem_append_left _ (List.mem_append_right _ hc)
  rw [List.mem_append, List.mem_cons, not_or, not_or] at hcomma
  constructor <;> simp only [String.toList_ofList]
  · intro hempty
    rw [← String.toList_inj, String.toList_ofList] at hempty
    exact hblank (trimChars_eq_nil_iff.1 hempty)
  · exact tight_trimChars key
  · exact mt hsub hcomma.1
  · exact mt hsub hcut
  · exact tight_trimChars value
  · exact mt hsub hcomma.2.2

theorem entry_cases (hcomma : ',' ∉ entry.toList) :
    (CountsForNothing entry ∧ entry? entry.toList = none) ∨
      ∃ tag, entry? entry.toList = some tag ∧ Admissible tag ∧ RenderedAs tag entry := by
  cases hcut : cut? '=' entry.toList with
  | none =>
    have hnothing : CountsForNothing entry := .noEquals (cut?_eq_none_iff.1 hcut)
    exact .inl ⟨hnothing, readEntry_of_countsForNothing hnothing⟩
  | some parts =>
    obtain ⟨key, value⟩ := parts
    obtain ⟨hentry, hequals⟩ := cut?_eq_some hcut
    by_cases hblank : Blank key
    · have hjoined : entry = String.ofList key ++ "=" ++ String.ofList value := by
        rw [← String.toList_inj, hentry]
        simp
      have hnothing : CountsForNothing entry :=
        .blankKey _ _ (by rwa [String.toList_ofList]) hjoined
      exact .inl ⟨hnothing, readEntry_of_countsForNothing hnothing⟩
    · have hadmissible := admissible_of_cut hequals (hentry ▸ hcomma) hblank
      have hrendered := renderedAs_of_cut hentry
      exact .inr ⟨_, readEntry_of_renderedAs hadmissible hrendered, hadmissible, hrendered⟩

/-! ## All entries -/

theorem parse_intercalate (h : ∀ entry ∈ entries, ',' ∉ entry.toList) :
    parse (",".intercalate entries) = entries.filterMap fun entry => entry? entry.toList := by
  by_cases hne : entries = []
  · subst hne
    rfl
  · have hpieces : pieces ',' (",".intercalate entries).toList = entries.map String.toList := by
      rw [String.toList_intercalate]
      exact pieces_intercalate (by simpa using hne) (by simpa using h)
    rw [parse, hpieces, List.filterMap_map]
    rfl

theorem exists_intercalate_eq (s : String) :
    ∃ entries, (∀ entry ∈ entries, ',' ∉ entry.toList) ∧ ",".intercalate entries = s := by
  refine ⟨(pieces ',' s.toList).map String.ofList, ?_, ?_⟩
  · simpa using fun part h => not_mem_of_mem_pieces h
  · have hid : (pieces ',' s.toList).map (String.toList ∘ String.ofList) = pieces ',' s.toList :=
      List.map_id'' (fun _ => String.toList_ofList) _
    rw [← String.toList_inj, String.toList_intercalate, List.map_map, hid]
    exact intercalate_pieces ',' s.toList

/-- A setting renders what its entries are read as, and that can be given. -/
theorem renders_filterMap (h : ∀ entry ∈ entries, ',' ∉ entry.toList) :
    Renders (entries.filterMap fun entry => entry? entry.toList) entries ∧
      ∀ tag ∈ entries.filterMap (fun entry => entry? entry.toList), Admissible tag := by
  induction entries with
  | nil => exact ⟨.nil, List.forall_mem_nil _⟩
  | cons entry more ih =>
    obtain ⟨hcomma, hmore⟩ := List.forall_mem_cons.1 h
    obtain ⟨hrenders, hadmissible⟩ := ih hmore
    rcases entry_cases hcomma with ⟨hnothing, hread⟩ | ⟨tag, hread, htag, hrendered⟩
    · simp only [List.filterMap_cons, hread]
      exact ⟨.nothing hcomma hnothing hrenders, hadmissible⟩
    · simp only [List.filterMap_cons, hread]
      exact ⟨.tag hrendered hrenders, List.forall_mem_cons.2 ⟨htag, hadmissible⟩⟩

theorem RenderedAs.comma_not_mem (htag : Admissible tag) (h : RenderedAs tag entry) :
    ',' ∉ entry.toList := by
  obtain ⟨a, b, c, d, ha, hb, hc, hd, rfl⟩ := h
  have hblank : ∀ {s : String}, Blank s.toList → ',' ∉ s.toList := fun h => not_mem_of_blank h rfl
  simp [hblank ha, hblank hb, hblank hc, hblank hd, htag.key_comma, htag.value_comma]

/-- The entries of a setting that renders tags are read as those. -/
theorem Renders.filterMap_eq (h : Renders tags entries) (htags : ∀ tag ∈ tags, Admissible tag) :
    (∀ entry ∈ entries, ',' ∉ entry.toList) ∧
      entries.filterMap (fun entry => entry? entry.toList) = tags := by
  induction h with
  | nil => exact ⟨List.forall_mem_nil _, rfl⟩
  | tag hrendered _ ih =>
    obtain ⟨htag, hmore⟩ := List.forall_mem_cons.1 htags
    obtain ⟨hcomma, hread⟩ := ih hmore
    refine ⟨List.forall_mem_cons.2 ⟨hrendered.comma_not_mem htag, hcomma⟩, ?_⟩
    simp only [List.filterMap_cons, readEntry_of_renderedAs htag hrendered, hread]
  | nothing hcomma hnothing _ ih =>
    obtain ⟨hmore, hread⟩ := ih htags
    refine ⟨List.forall_mem_cons.2 ⟨hcomma, hmore⟩, ?_⟩
    simp only [List.filterMap_cons, readEntry_of_countsForNothing hnothing, hread]

/-- Tags that are rendered are read back, in order and with duplicates; and any text is a rendering
of what is read off it, whose keys are not empty and whose texts are trimmed. -/
theorem parse_undoes_rendering :
    (∀ tags entries, (∀ tag ∈ tags, Admissible tag) → Renders tags entries →
      parse (",".intercalate entries) = tags) ∧
    ∀ s, (∀ tag ∈ parse s, Admissible tag) ∧
      ∃ entries, Renders (parse s) entries ∧ ",".intercalate entries = s := by
  refine ⟨fun tags entries htags h => ?_, fun s => ?_⟩
  · obtain ⟨hcomma, hread⟩ := h.filterMap_eq htags
    rw [parse_intercalate hcomma, hread]
  · obtain ⟨entries, hcomma, rfl⟩ := exists_intercalate_eq s
    obtain ⟨hrenders, hadmissible⟩ := renders_filterMap hcomma
    rw [← parse_intercalate hcomma] at hrenders hadmissible
    exact ⟨hadmissible, entries, hrenders, rfl⟩

/-- Three tags between entries that count for nothing, with white space of several kinds. -/
theorem parse_undoes_rendering_interspersed :
    let tags : List KeyValue := [⟨"team", "infra"⟩, ⟨"env", "a=b"⟩, ⟨"team", "ops"⟩]
    let entries := [" team = infra", "broken", "\u00a0=x", "env=\ta=b ", "", "team=ops"]
    (∀ tag ∈ tags, Admissible tag) ∧ Renders tags entries ∧
      parse " team = infra,broken,\u00a0=x,env=\ta=b ,,team=ops" = tags ∧
      ⟨"env", "a=b"⟩ ∈ parse " team = infra,broken,\u00a0=x,env=\ta=b ,,team=ops" ∧
      Admissible ⟨"env", "a=b"⟩ := by
  intro tags entries
  have htags : ∀ tag ∈ tags, Admissible tag := by
    simp only [tags, List.forall_mem_cons]
    refine ⟨?_, ?_, ?_, List.forall_mem_nil _⟩ <;> constructor <;> decide
  have hrenders : Renders tags entries := by
    have hteam : RenderedAs ⟨"team", "infra"⟩ " team = infra" :=
      .spaced " " " " " " "" (by decide) (by decide) (by decide) (by decide) (by decide)
    have henv : RenderedAs ⟨"env", "a=b"⟩ "env=\ta=b " :=
      .spaced "" "" "\t" " " (by decide) (by decide) (by decide) (by decide) (by decide)
    have hops : RenderedAs ⟨"team", "ops"⟩ "team=ops" :=
      .spaced "" "" "" "" (by decide) (by decide) (by decide) (by decide) (by decide)
    refine .tag hteam ?_
    refine .nothing (by decide) (.noEquals (by decide)) ?_
    refine .nothing (by decide) (.blankKey "\u00a0" "x" (by decide) (by decide)) ?_
    refine .tag henv ?_
    refine .nothing (by decide) (.noEquals (by decide)) ?_
    exact .tag hops .nil
  have hparse : parse " team = infra,broken,\u00a0=x,env=\ta=b ,,team=ops" = tags :=
    parse_undoes_rendering.1 tags entries htags hrenders
  have hmem : ⟨"env", "a=b"⟩ ∈ parse " team = infra,broken,\u00a0=x,env=\ta=b ,,team=ops" := by
    rw [hparse]
    decide
  exact ⟨htags, hrenders, hparse, hmem, (parse_undoes_rendering.2 _).1 _ hmem⟩

end StackSync.Tags
