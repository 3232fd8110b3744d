import ChatRelay.Config.File
import ChatRelay.Proofs.Store.Address

/-!
# Where the database is

The database is opened at an address that the path of the data directory is put into as
it is shown. The address spells the file in this directory, where the configuration is
read too, exactly if it holds the path as it is: if the path is text without question
marks and escapes, and if taking pairs of slashes off leaves an absolute path absolute
and a relative one relative (`Spelled`, `database_in_directory_iff`).

An address that spells the file has to spell enough (`weight_path`), so that nothing was
cut off and nothing decoded. Then the names show that the path is text.
-/

namespace ChatRelay.DataDir

open Address
open ChatRelay.Path (namesOf weight textWeight textWeight_append)
open String (utf8EncodeChar)

/-- An address holds the path of this directory as it is. -/
structure Spelled (dir : Path) (s : String) : Prop where
  text : dir = .ofText s
  query : '?' ∉ s.toList
  escape : ¬ Http.HasEscape s.toList
  /-- What is written of a file in the directory begins with an odd number of slashes if the
  directory is absolute, and with none if it is not. -/
  start : dir.isAbsolute = true ↔ leadingSlashes (s.toList ++ ['/']) % 2 = 1

theorem isName_config : Path.IsName configName := by
  constructor <;> decide +kernel

theorem isName_database : Path.IsName databaseName := by
  constructor <;> decide +kernel

theorem toList_openUrl (dir : Path) :
    (openUrl dir).toList =
      "sqlite://".toList ++ (dir.shown.toList ++ "/parley.db".toList) ++ "?mode=rwc".toList := by
  simp [openUrl, databaseUrl, databaseName, String.toList_append]

theorem leadingSlashes_append (cs : List Char) :
    leadingSlashes (cs ++ "/parley.db".toList) = leadingSlashes (cs ++ ['/']) := by
  rw [leadingSlashes, leadingSlashes, List.takeWhile_append, List.takeWhile_append]
  rfl

/-- Where the file of the database is when nothing in front of its name is read in another way. -/
theorem place_unescaped (cs : List Char) :
    Path.place ⟨(dropPairs (cs ++ "/parley.db".toList)).flatMap utf8EncodeChar⟩ =
      ⟨decide (leadingSlashes (cs ++ ['/']) % 2 = 1),
        namesOf (cs.flatMap utf8EncodeChar) ++ [Text.encodeUtf8 databaseName]⟩ := by
  have hname : "/parley.db".toList.flatMap utf8EncodeChar =
      Path.slash :: Text.encodeUtf8 databaseName := by
    rw [Text.encodeUtf8_eq]
    rfl
  rw [Path.place, namesOf_dropPairs, List.flatMap_append, hname, Path.namesOf_append_slash,
    Path.namesOf_encodeUtf8 isName_database]
  congr 1
  rw [Bool.eq_iff_iff, decide_eq_true_iff, Path.isAbsolute_flatMap, head?_dropPairs,
    leadingSlashes_append]

theorem path_openUrl {dir : Path} (h : '?' ∉ dir.shown.toList) :
    path (openUrl dir) =
        ⟨Http.percentDecode (dropPairs (dir.shown.toList ++ "/parley.db".toList))⟩ ∧
      parameters (openUrl dir) = "mode=rwc".toList := by
  refine path_eq ?_ (toList_openUrl dir)
  rw [List.mem_append, not_or]
  exact ⟨h, by decide⟩

-- the slash of the root is one of a pair
example : path (openUrl (.ofText "/")) = .ofText "parley.db" := by decide +kernel

theorem hasEscape_append_iff {cs : List Char} :
    Http.HasEscape (cs ++ "/parley.db".toList) ↔ Http.HasEscape cs := by
  refine ⟨fun h => ?_, fun h => h.mono (List.prefix_append _ _).isInfix⟩
  rcases h.of_append_slash with hcs | hname
  · exact hcs
  · exact absurd hname.percent_mem (by decide)

/-- An address that spells the file in the directory spells a path that weighs this much. -/
theorem weight_path {dir : Path} (h : (path (openUrl dir)).place = dir.place.child databaseName) :
    weight (path (openUrl dir)).bytes = weight dir.bytes + 8 := by
  have hname : weight (Text.encodeUtf8 databaseName) = 8 := by decide +kernel
  rw [Path.weight_of_place_eq h, hname]

/-- Where a question mark is in the path of the directory, an address is cut in front of the name of
the file and does not weigh enough. -/
theorem query_not_mem {dir : Path}
    (h : (path (openUrl dir)).place = dir.place.child databaseName) : '?' ∉ dir.shown.toList := by
  intro hmem
  obtain ⟨front, back, hparts, hfront⟩ := List.eq_append_cons_of_mem hmem
  have hcut : (openUrl dir).toList =
      "sqlite://".toList ++ front ++ '?' :: (back ++ "/parley.db?mode=rwc".toList) := by
    rw [toList_openUrl, hparts]
    simp
  have hpath : path (openUrl dir) = ⟨Http.percentDecode (dropPairs front)⟩ :=
    (path_eq hfront hcut).1
  have hweight := weight_path h
  have hread := (Http.weight_percentDecode (dropPairs front)).1
  have hshown := dir.textWeight_shown_le
  rw [hpath] at hweight
  rw [textWeight_dropPairs] at hread
  rw [hparts, textWeight_append] at hshown
  dsimp only at hweight
  omega

/-- Where an escape is in the path of the directory, it is decoded and does not weigh enough. -/
theorem not_hasEscape {dir : Path}
    (h : (path (openUrl dir)).place = dir.place.child databaseName) :
    ¬ Http.HasEscape dir.shown.toList := by
  intro hescape
  have hweight := weight_path h
  have hread := (Http.weight_percentDecode _).2
    (hasEscape_dropPairs_iff.2 (hasEscape_append_iff.2 hescape))
  have hshown := dir.textWeight_shown_le
  have hname : textWeight "/parley.db".toList = 8 := by decide
  rw [(path_openUrl (query_not_mem h)).1] at hweight
  rw [textWeight_dropPairs, textWeight_append, hname] at hread
  dsimp only at hweight
  omega

/-- Where nothing is cut off and nothing decoded, an address spells the name of the file behind the
names that are shown of the directory. -/
theorem place_path {dir : Path} (hquery : '?' ∉ dir.shown.toList)
    (hescape : ¬ Http.HasEscape dir.shown.toList) :
    (path (openUrl dir)).place =
      ⟨decide (leadingSlashes (dir.shown.toList ++ ['/']) % 2 = 1),
        namesOf (Text.encodeUtf8 dir.shown) ++ [Text.encodeUtf8 databaseName]⟩ := by
  have hplain := mt hasEscape_dropPairs_iff.1 (mt hasEscape_append_iff.1 hescape)
  rw [(path_openUrl hquery).1, Http.percentDecode_of_not_hasEscape hplain, place_unescaped,
    ← Text.encodeUtf8_eq]

/-- The address of the database spells the file in the directory exactly if it holds the path of the
directory as it is. -/
theorem place_path_openUrl_iff (dir : Path) :
    (path (openUrl dir)).place = dir.place.child databaseName ↔ ∃ s, Spelled dir s := by
  constructor
  · intro h
    have hquery := query_not_mem h
    have hescape := not_hasEscape h
    rw [place_path hquery hescape] at h
    obtain ⟨hstart, hnames⟩ := Path.Place.mk.inj h
    -- the names that are shown are text, so that nothing was lost where the path was shown
    have hsame : namesOf (Text.encodeUtf8 dir.shown) = namesOf dir.bytes :=
      List.append_cancel_right hnames
    have htext : Text.IsUtf8 dir.bytes := by
      rw [Path.isUtf8_iff, ← hsame, ← Path.isUtf8_iff]
      exact ⟨_, Text.encodeUtf8_eq _⟩
    have hdir : dir = .ofText dir.shown := Path.eq_ofText_shown htext
    have habsolute : dir.isAbsolute = decide (leadingSlashes (dir.shown.toList ++ ['/']) % 2 = 1) :=
      hstart.symm
    exact ⟨dir.shown, hdir, hquery, hescape, by rw [habsolute, decide_eq_true_iff]⟩
  · rintro ⟨s, hs⟩
    have hshown : dir.shown = s := by rw [hs.text, Path.shown_ofText]
    rw [place_path (hshown ▸ hs.query) (hshown ▸ hs.escape), hshown, Path.place, Path.Place.child]
    congr 1
    · rw [Bool.eq_iff_iff, decide_eq_true_iff, hs.start]
    · rw [hs.text]
      rfl

theorem isUtf8_path {dir : Path} {s : String} (h : Spelled dir s) :
    Text.IsUtf8 (path (openUrl dir)).bytes := by
  have hshown : dir.shown = s := by rw [h.text, Path.shown_ofText]
  have hplain := mt hasEscape_dropPairs_iff.1 (mt hasEscape_append_iff.1 (hshown ▸ h.escape))
  rw [(path_openUrl (hshown ▸ h.query)).1, Http.percentDecode_of_not_hasEscape hplain]
  exact ⟨_, rfl⟩

/-- The configuration is read from the data directory. The database is opened there exactly if the
address holds the path of the directory as it is: with every other directory the address is not
read, or it leads another way. -/
theorem database_in_directory_iff {file? : String → Option Path} (hreads : Reads file?)
    (named home : Option Path) :
    (configFile (locate named home)).place = (locate named home).place.child configName ∧
      ((∃ file, file? (openUrl (locate named home)) = some file ∧
          file.place = (locate named home).place.child databaseName) ↔
        ∃ s, Spelled (locate named home) s) := by
  generalize locate named home = dir
  refine ⟨Path.place_join dir isName_config, ?_⟩
  rw [← place_path_openUrl_iff]
  constructor
  · rintro ⟨file, hfile, hplace⟩
    rwa [hreads.eq_path hfile] at hplace
  · intro hplace
    obtain ⟨s, hs⟩ := (place_path_openUrl_iff dir).1 hplace
    have hnamed : path (openUrl dir) ≠ .ofText ":memory:" := by
      intro hmemory
      have hlast := congrArg (fun p : Path.Place => p.names.getLast?) hplace
      simp only [hmemory, Path.Place.child, List.getLast?_concat] at hlast
      revert hlast
      decide +kernel
    have hmode := (path_openUrl (query_not_mem hplace)).2
    obtain ⟨file, hfile⟩ := Option.isSome_iff_exists.1 (hreads.isSome (isUtf8_path hs) hnamed hmode)
    exact ⟨file, hfile, hreads.eq_path hfile ▸ hplace⟩

/-- The variable holds no text, so the directory is the one under a home with a percent sign in its
path, which is no escape. -/
theorem database_in_directory_iff_percent :
    let dir := locate (some ⟨[0xFF]⟩) (some (.ofText "///home/50% off/"))
    Reads plainFile? ∧ dir = .ofText "///home/50% off/.parley" ∧
      ∃ file, plainFile? (openUrl dir) = some file ∧
        file.place = (Path.ofText "/home/50% off/.parley/parley.db").place := by
  intro dir
  have hdir : dir = .ofText "///home/50% off/.parley" := by decide +kernel
  have hspelled : Spelled dir "///home/50% off/.parley" :=
    ⟨hdir, by decide, by decide +kernel, by decide +kernel⟩
  obtain ⟨file, hfile, hplace⟩ :=
    (database_in_directory_iff reads_plainFile? (some ⟨[0xFF]⟩) _).2.2 ⟨_, hspelled⟩
  refine ⟨reads_plainFile?, hdir, file, hfile, ?_⟩
  rw [hplace]
  decide +kernel

/-- The path of the directory holds an escape, and the database is in another directory. -/
theorem database_elsewhere :
    path (openUrl (locate (some (.ofText "/home/ada/rock%26roll")) none)) =
        .ofText "/home/ada/rock&roll/parley.db" ∧
      ¬ ∀ named home : Option Path,
        (path (openUrl (locate named home))).place =
          (locate named home).place.child databaseName := by
  refine ⟨by decide +kernel, fun h => ?_⟩
  have hplace := h (some (.ofText "/home/ada/rock%26roll")) none
  revert hplace
  decide +kernel

end ChatRelay.DataDir
