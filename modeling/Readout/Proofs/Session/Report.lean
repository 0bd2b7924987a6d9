/-
  Records as JSON.  Nothing is lost of the records that are reported, and no two lists of records look alike.

  * `Record.isPlain_json`, `Record.json_injective`: a record is an object without numbers, which tells the record;
  * `names_of_extract`: its members are named as the columns of the template, in order;
  * `report_lossless`: what is reported reads as the records of the parse.
-/
import Readout.Proofs.Extraction.Shape
import Readout.Proofs.Json.RoundTrip
import Readout.Session.Basic

namespace Readout

namespace Extraction

/-! ## Records -/

theorem Field.isPlain_json (f : Field) : f.json.IsPlain := by
  cases f with
  | single t => exact .string t
  | list ts =>
    refine .array fun j hj => ?_
    obtain ⟨t, -, rfl⟩ := List.mem_map.1 hj
    exact .string t

theorem Record.isPlain_json (r : Record) : r.json.IsPlain := by
  refine .object fun m hm => ?_
  obtain ⟨f, -, rfl⟩ := List.mem_map.1 hm
  exact f.2.isPlain_json

/-- A single text is told from a list, and a list from any other one. -/
theorem Field.json_injective : Function.Injective Field.json := by
  intro f g h
  cases f with
  | single t =>
    cases g with
    | single u => cases h; rfl
    | list us => cases h
  | list ts =>
    cases g with
    | single u => cases h
    | list us => rw [List.map_injective_iff.2 (fun _ _ => Json.string.inj) (Json.array.inj h)]

theorem Record.json_injective : Function.Injective Record.json := by
  intro r r' h
  refine List.map_injective_iff.2 ?_ (Json.object.inj h)
  rintro ⟨name, f⟩ ⟨name', f'⟩ heq
  obtain ⟨hname, hf⟩ := Prod.mk.inj heq
  rw [hname, Field.json_injective hf]

/-- **What is reported reads as the records.** -/
theorem parse?_report (rs : List Record) : Json.parse? (report rs) = some (.array (rs.map Record.json)) := by
  refine Json.parse?_pretty (.array fun j hj => ?_)
  obtain ⟨r, -, rfl⟩ := List.mem_map.1 hj
  exact r.isPlain_json

/-- No two lists of records look alike. -/
theorem report_injective : Function.Injective report := by
  intro rs rs' h
  have hread := (parse?_report rs).symm.trans (h ▸ parse?_report rs')
  exact List.map_injective_iff.2 Record.json_injective (Json.array.inj (Option.some.inj hread))

/-- The fields of a record have the names of the columns, in order. -/
theorem names_of_extract {t : Template} {text : Text} {o : Outcome} (h : extract t text = .ok o) :
    ∀ r ∈ o.records, r.names = t.header := by
  intro r hr
  obtain ⟨c, -, rfl⟩ := exists_course h
  obtain ⟨row, hrow, rfl⟩ := List.mem_map.1 hr
  obtain ⟨g, hrow⟩ := exists_rowOf row (List.mem_reverse.1 hrow)
  exact names_zip hrow.length

end Extraction

namespace Session

open Extraction (Record extract)

/-! ## Reports -/

/-- A report is that of the records of the parse. -/
theorem report_eq_map (s : Session) (files : FileTree) (platform command text : Text) :
    (s.report files platform command text).2.2 =
      ((s.parse files platform command text).2.2.map Extraction.report).mapError .parse := by
  unfold report
  rcases s.parse files platform command text with ⟨s', log, e | rs⟩ <;> rfl

/-- **Nothing is lost in a report.**  The report of any records reads as an array with an object for each record, in
    order, whose members are its fields, in order, with a string for a single text and an array of strings for a list;
    and no other records have the same report.  A parse yields these records if and only if its report reads so.  The
    records of a run have the columns of its template as names, in order and each of them once. -/
theorem report_lossless (s : Session) (files : FileTree) (platform command text : Text) (rs : List Record) :
    (Json.parse? (Extraction.report rs) = some (.array (rs.map Record.json)) ∧
        ∀ rs', Extraction.report rs' = Extraction.report rs ↔ rs' = rs) ∧
      ((s.parse files platform command text).2.2 = .ok rs ↔
        ∃ t, (s.report files platform command text).2.2 = .ok t ∧
          Json.parse? t = some (.array (rs.map Record.json))) ∧
      ∀ (source input : Text) (t : Template) (o : Extraction.Outcome), Template.parse source = .ok t →
        extract t input = .ok o → o.records = rs → ∀ r ∈ rs, r.names = t.header ∧ r.names.Nodup := by
  refine ⟨⟨Extraction.parse?_report rs, fun rs' => Extraction.report_injective.eq_iff⟩, ?_, ?_⟩
  · rw [report_eq_map]
    rcases (s.parse files platform command text).2.2 with e | rs'
    · constructor
      · rintro ⟨⟩
      · rintro ⟨t, ht, -⟩
        cases ht
    · constructor
      · rintro ⟨⟩
        exact ⟨_, rfl, Extraction.parse?_report rs⟩
      · rintro ⟨t, ht, hread⟩
        obtain rfl : Extraction.report rs' = t := Except.ok.inj ht
        have hmap := Json.array.inj (Option.some.inj ((Extraction.parse?_report rs').symm.trans hread))
        rw [List.map_injective_iff.2 Record.json_injective hmap]
  · rintro source input t o ht ho rfl r hr
    have hnames := Extraction.names_of_extract ho r hr
    exact ⟨hnames, hnames ▸ Template.header_nodup_of_parse ht⟩

/-- A template with a single text and a list. -/
def quotedTemplate : Text := "Value A (.+)\nValue List B (\\w)\n\nStart\n  ^${A} -> Record\n".toList

/-- Files with an index and that template. -/
def quotedFiles : FileTree :=
  (({} : FileTree).write "templates/index".toList
    (.text "Template, Platform, Command\na, os, show a\n".toList)).write "templates/a".toList (.text quotedTemplate)

/-- Output with a quote, a backslash and control characters. -/
def quotedInput : Text := "\"\\\t\x01é\n".toList

/-- Its records. -/
def quotedRecords : List Record := [[(['A'], .single "\"\\\t\x01é".toList), (['B'], .list [])]]

/-- Its report. -/
def quotedReport : Text := "[\n  \x7b\n    \"A\": \"\\\"\\\\\\t\\u0001é\",\n    \"B\": []\n  \x7d\n]".toList

/-- Quotes, a backslash and control characters, and an empty list. -/
theorem report_lossless_escapes :
    ∃ t, Template.parse quotedTemplate = .ok t ∧ extract t quotedInput = .ok { records := quotedRecords } ∧
      Extraction.report quotedRecords = quotedReport ∧
      Json.parse? quotedReport = some (.array (quotedRecords.map Record.json)) ∧
      (∃ r, (report { config := {} } quotedFiles "os".toList "show a".toList quotedInput).2.2 = .ok r ∧
        Json.parse? r = some (.array (quotedRecords.map Record.json))) ∧
      ∀ r ∈ quotedRecords, r.names = t.header ∧ r.names.Nodup := by
  have hextract : (Template.parse quotedTemplate).toOption.map (extract · quotedInput) =
      some (.ok { records := quotedRecords }) := by decide +kernel
  have hparse : (parse { config := {} } quotedFiles "os".toList "show a".toList quotedInput).2.2 = .ok quotedRecords := by
    decide +kernel
  have hreport : Extraction.report quotedRecords = quotedReport := by decide +kernel
  obtain ⟨t, ht, ho⟩ := Extraction.exists_parse_extract hextract
  obtain ⟨⟨hread, -⟩, hsession, hnames⟩ :=
    report_lossless { config := {} } quotedFiles "os".toList "show a".toList quotedInput quotedRecords
  exact ⟨t, ht, ho, hreport, hreport ▸ hread, hsession.1 hparse, hnames _ _ t _ ht ho rfl⟩

end Session

end Readout
