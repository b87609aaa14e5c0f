import SchemaPlan.Proofs.Migration.Breaking
import SchemaPlan.Proofs.Migration.Slug.NormalForm

namespace SchemaPlan

namespace FileTree

variable {t : FileTree} {directory place : List String}

theorem Leads.locate_child {slashes : Nat} {names : List String}
    (h : t.Leads directory ⟨slashes, names⟩ place) (hn : name ≠ "..")
    (h0 : '\x00' ∉ name.toList) (hb : name.utf8ByteSize ≤ maxNameBytes) :
    t.locate directory ⟨slashes, names ++ [name]⟩ =
      if (Path.mk slashes (names ++ [name])).text.utf8ByteSize > maxPathBytes
        then .error .nameTooLong
      else if t.allows place .search then .ok (place ++ [name]) else .error .accessDenied := by
  have hw : t.walk place [name] =
      if t.allows place .search then .ok (place ++ [name]) else .error .accessDenied := by
    simp only [walk, h.2, if_neg hn, if_neg (Nat.not_lt.2 hb)]
    cases t.allows place .search <;> rfl
  have hnul : '\x00' ∉ (Path.mk slashes (names ++ [name])).text.toList :=
    not_nul_child h.not_nul h0
  have hne : names ++ [name] ≠ [] := by simp
  simp only [locate, List.contains_eq_mem, hnul, decide_false, Bool.false_eq_true, if_false,
    hne, false_and, h.walk_child name, hw]

end FileTree

namespace MigrationStore
open Slug

/-- Names that any file system takes, and that lead nowhere else. -/
structure IsFileName (name : String) : Prop where
  ascii : ∀ c ∈ name.toList, c.toNat < 128
  slash : '/' ∉ name.toList
  backslash : '\\' ∉ name.toList
  nul : '\x00' ∉ name.toList
  dots : name ≠ "." ∧ name ≠ ".."
  bytes : name.utf8ByteSize ≤ 240

theorem utf8ByteSize_of_ascii {s : String} (h : ∀ c ∈ s.toList, c.toNat < 128) :
    s.utf8ByteSize = s.length := by
  have hu {l : List Char} (h : ∀ c ∈ l, c.toNat < 128) : String.utf8Len l = l.length := by
    induction l with
    | nil => rfl
    | cons c l ih =>
      obtain ⟨hc, hl⟩ := List.forall_mem_cons.1 h
      have h1 : c.utf8Size = 1 := Char.utf8Size_eq_one_iff.2 (Nat.le_of_lt_succ hc)
      rw [String.utf8Len_cons, ih hl, h1, List.length_cons]
  rw [← String.ofList_toList (s := s), String.utf8ByteSize_ofList, hu h, String.length_ofList]

theorem isSlugChar_of_isDigit {c : Char} (h : c.isDigit = true) : isSlugChar c = true := by
  simp only [Char.isDigit, Bool.and_eq_true, decide_eq_true_eq] at h
  simp only [isSlugChar, Bool.or_eq_true, Bool.and_eq_true, decide_eq_true_eq]
  exact .inl (.inr h)

theorem mem_fileName (hv : IsStamp version) (hs : IsSlug slug.toList)
    (h : c ∈ (fileName version slug).toList) : isSlugChar c = true ∨ c = '.' := by
  have he : ending.all (fun c => isSlugChar c || c = '.') = true := by decide
  rw [toList_fileName, List.mem_append, List.mem_cons, List.mem_append] at h
  rcases h with h | rfl | h | h
  · exact .inl (isSlugChar_of_isDigit (hv.2 c h))
  · exact .inl rfl
  · exact .inl (hs.chars c h)
  · simpa using List.all_eq_true.1 he c h

theorem length_fileName (hv : IsStamp version) :
    (fileName version slug).length = slug.length + 18 := by
  rw [← String.length_toList, toList_fileName]
  simp only [List.length_append, List.length_cons, hv.1, String.length_toList]
  change 14 + (slug.length + 3 + 1) = _
  omega

theorem isFileName_fileName (hv : IsStamp version) (hs : IsSlug slug.toList)
    (hl : slug.length ≤ 222) : IsFileName (fileName version slug) := by
  have outside {c : Char} (hc : isSlugChar c = false) (hd : c ≠ '.') :
      c ∉ (fileName version slug).toList := by
    intro hm
    rcases mem_fileName hv hs hm with h | h
    · exact absurd h (by rw [hc]; decide)
    · exact hd h
  have hascii : ∀ c ∈ (fileName version slug).toList, c.toNat < 128 := by
    intro c hc
    rcases mem_fileName hv hs hc with h | rfl
    · exact isAscii_of_isSlugChar h
    · decide
  constructor
  case ascii => exact hascii
  case slash => exact outside (by decide) (by decide)
  case backslash => exact outside (by decide) (by decide)
  case nul => exact outside (by decide) (by decide)
  case dots =>
    refine ⟨?_, fileName_ne_dots version slug⟩
    intro h
    have hu := underscore_mem_fileName version slug
    rw [h] at hu
    exact absurd hu (by decide)
  case bytes =>
    rw [utf8ByteSize_of_ascii hascii, length_fileName hv]
    omega

/-- Whatever the name of a migration, its slug is one of 1 to 222 characters, and the file of any
version under that slug has a name of ASCII, of at most 240 bytes and without a separator, right
in the directory of migrations. There it is found unless the path gets too long or the directory
may not be searched. -/
theorem fileName_ofName (name : String) : ∃ slug, (ofName name).value = slug ∧
    IsSlug slug.toList ∧ 1 ≤ slug.length ∧ slug.length ≤ 222 ∧
    ∀ version, IsStamp version → IsFileName (fileName version slug) ∧
      ∀ store : MigrationStore,
        store.pathFor (.ofList version) slug =
          ⟨store.directory.slashes, store.directory.names ++ [fileName version slug]⟩ ∧
        (store.pathFor (.ofList version) slug).parent = store.directory ∧
        (store.pathFor (.ofList version) slug).name = fileName version slug ∧
        ∀ t directory place, FileTree.Leads t directory store.directory place →
          t.locate directory (store.pathFor (.ofList version) slug) =
            if (store.pathFor (.ofList version) slug).text.utf8ByteSize > FileTree.maxPathBytes
              then .error .nameTooLong
            else if t.allows place .search then .ok (place ++ [fileName version slug])
            else .error .accessDenied := by
  have hs := isSlug_ofName name
  have hl := length_ofName_le name
  refine ⟨_, rfl, hs, ?_, hl, ?_⟩
  · obtain ⟨c, hc, -⟩ := hs.head
    rw [← String.length_toList]
    exact List.length_pos_of_mem (List.mem_of_head? hc)
  · intro version hv
    have hf := isFileName_fileName hv hs hl
    refine ⟨hf, fun store => ?_⟩
    have hp : store.pathFor (.ofList version) (ofName name).value = _ := pathFor_eq
      (fun hm => absurd (hv.2 _ hm) (by decide)) (fun hm => absurd (hs.chars _ hm) (by decide))
    rw [hp]
    refine ⟨rfl, ?_, ?_, fun t directory place h => ?_⟩
    · rw [Path.parent, List.dropLast_concat]
    · rw [Path.name, List.getLast?_concat, Option.getD_some]
    · exact h.locate_child hf.dots.2 hf.nul (hf.bytes.trans (by decide))

theorem isStamp_noon : IsStamp "20240229120000".toList :=
  ⟨by decide, List.all_eq_true.1 (by decide)⟩

theorem hostileName_fileName : IsFileName "20240229120000_x.rb" ∧
    (FileTree.mk [(["db"], .directory), (["db", "migrate"], .directory)] []).locate []
      ((MigrationStore.mk ⟨0, ["db", "migrate"]⟩).pathFor "20240229120000"
        (ofName "../../x\x00").value) = .ok ["db", "migrate", "20240229120000_x.rb"] := by
  have hslug : (ofName "../../x\x00").value = "x" := by decide +kernel
  have hd : (FileTree.mk [(["db"], .directory), (["db", "migrate"], .directory)] []).Leads []
      ⟨0, ["db", "migrate"]⟩ ["db", "migrate"] := ⟨by decide +kernel, by decide +kernel⟩
  obtain ⟨slug, rfl, -, -, -, hf⟩ := fileName_ofName "../../x\x00"
  obtain ⟨hname, hpath⟩ := hf _ isStamp_noon
  obtain ⟨-, -, -, hl⟩ := hpath ⟨⟨0, ["db", "migrate"]⟩⟩
  rw [hslug] at hname hl ⊢
  refine ⟨hname, (hl _ _ _ hd).trans (if_neg ?_)⟩
  decide +kernel

theorem longName_fileName : (ofName longName).value.length = 218 ∧
    (fileName "20240229120000".toList (ofName longName).value).utf8ByteSize = 236 := by
  have hl : (ofName longName).value.length = 218 := by
    rw [value_ofName_longName, String.length_ofList, length_whole_longName]
  have hf := isFileName_fileName isStamp_noon (isSlug_ofName longName) (length_ofName_le longName)
  refine ⟨hl, ?_⟩
  rw [utf8ByteSize_of_ascii hf.ascii, length_fileName isStamp_noon, hl]

end MigrationStore

end SchemaPlan
