/-
  EpubAccess.Metadata
  ────────────────────────────────
  What a publication says about itself.

  Twenty facts are single texts, each of which may be absent and has a slot of
  its own in the record; the lists of authors and subjects and the rendition
  stand beside them.  `Metadata.assign` puts a value into the slot of a field
  and `Metadata.scalar` reads that slot.

  Main results:

    • `Metadata.scalar_assign`: an assignment is read back from the slot of its
      field and from no other,
    • `Metadata.foldl_assign`: one assignment to each field fills every slot but
      the lists and the rendition.
-/
import EpubAccess.Rendition

namespace EpubAccess

/-- The facts that are single texts. -/
inductive MetadataField where
  | title
  | subtitle
  | shortTitle
  | collectionTitle
  | editionTitle
  | expandedTitle
  | fullTitle
  | uniqueId
  | urlSafeUniqueId
  | packageId
  | basePath
  | type
  | version
  | isbn
  | language
  | copyrightOwner
  | source
  | authors
  | modificationDate
  | pageProgressionDirection
  deriving DecidableEq, Inhabited

namespace MetadataField

/-- Every field, in the order in which they are read. -/
def all : List MetadataField :=
  [.title, .subtitle, .shortTitle, .collectionTitle, .editionTitle, .expandedTitle, .fullTitle,
    .uniqueId, .urlSafeUniqueId, .packageId, .basePath, .type, .version, .isbn, .language,
    .copyrightOwner, .source, .authors, .modificationDate, .pageProgressionDirection]

/-- No field is missing from the list. -/
theorem mem_all (f : MetadataField) : f ∈ all := by cases f <;> decide

/-- The name of a field. -/
def name : MetadataField → String
  | .title => "Title"
  | .subtitle => "Subtitle"
  | .shortTitle => "ShortTitle"
  | .collectionTitle => "CollectionTitle"
  | .editionTitle => "EditionTitle"
  | .expandedTitle => "ExpandedTitle"
  | .fullTitle => "FullTitle"
  | .uniqueId => "UniqueId"
  | .urlSafeUniqueId => "UrlSafeUniqueId"
  | .packageId => "PackageId"
  | .basePath => "BasePath"
  | .type => "Type"
  | .version => "Version"
  | .isbn => "Isbn"
  | .language => "Language"
  | .copyrightOwner => "CopyrightOwner"
  | .source => "Source"
  | .authors => "Authors"
  | .modificationDate => "ModificationDate"
  | .pageProgressionDirection => "PageProgressionDirection"

end MetadataField

/-- The facts of one publication. -/
structure Metadata where
  title : Option String
  subtitle : Option String
  shortTitle : Option String
  collectionTitle : Option String
  editionTitle : Option String
  expandedTitle : Option String
  fullTitle : Option String
  uniqueId : Option String
  urlSafeUniqueId : Option String
  packageId : Option String
  basePath : Option String
  packageType : Option String
  version : Option String
  isbn : Option String
  language : Option String
  copyrightOwner : Option String
  source : Option String
  authors : Option String
  authorList : List String
  subjects : List String
  modificationDate : Option String
  pageProgressionDirection : Option String
  rendition : Rendition

namespace Metadata

/-- Nothing known. -/
def empty : Metadata :=
  { title := none
    subtitle := none
    shortTitle := none
    collectionTitle := none
    editionTitle := none
    expandedTitle := none
    fullTitle := none
    uniqueId := none
    urlSafeUniqueId := none
    packageId := none
    basePath := none
    packageType := none
    version := none
    isbn := none
    language := none
    copyrightOwner := none
    source := none
    authors := none
    authorList := []
    subjects := []
    modificationDate := none
    pageProgressionDirection := none
    rendition := .empty }

instance : Inhabited Metadata := ⟨empty⟩

/-- A value put into the slot of a field. -/
def assign (m : Metadata) (field : MetadataField) (value : Option String) : Metadata :=
  match field with
  | .title => { m with title := value }
  | .subtitle => { m with subtitle := value }
  | .shortTitle => { m with shortTitle := value }
  | .collectionTitle => { m with collectionTitle := value }
  | .editionTitle => { m with editionTitle := value }
  | .expandedTitle => { m with expandedTitle := value }
  | .fullTitle => { m with fullTitle := value }
  | .uniqueId => { m with uniqueId := value }
  | .urlSafeUniqueId => { m with urlSafeUniqueId := value }
  | .packageId => { m with packageId := value }
  | .basePath => { m with basePath := value }
  | .type => { m with packageType := value }
  | .version => { m with version := value }
  | .isbn => { m with isbn := value }
  | .language => { m with language := value }
  | .copyrightOwner => { m with copyrightOwner := value }
  | .source => { m with source := value }
  | .authors => { m with authors := value }
  | .modificationDate => { m with modificationDate := value }
  | .pageProgressionDirection => { m with pageProgressionDirection := value }

/-- The value in the slot of a field. -/
def scalar (m : Metadata) : MetadataField → Option String
  | .title => m.title
  | .subtitle => m.subtitle
  | .shortTitle => m.shortTitle
  | .collectionTitle => m.collectionTitle
  | .editionTitle => m.editionTitle
  | .expandedTitle => m.expandedTitle
  | .fullTitle => m.fullTitle
  | .uniqueId => m.uniqueId
  | .urlSafeUniqueId => m.urlSafeUniqueId
  | .packageId => m.packageId
  | .basePath => m.basePath
  | .type => m.packageType
  | .version => m.version
  | .isbn => m.isbn
  | .language => m.language
  | .copyrightOwner => m.copyrightOwner
  | .source => m.source
  | .authors => m.authors
  | .modificationDate => m.modificationDate
  | .pageProgressionDirection => m.pageProgressionDirection

/-- Two records with the same value in every slot are the same. -/
theorem eq_of_scalar {m n : Metadata} (hscalar : ∀ field, m.scalar field = n.scalar field)
    (hauthorList : m.authorList = n.authorList) (hsubjects : m.subjects = n.subjects)
    (hrendition : m.rendition = n.rendition) : m = n := by
  cases m
  cases n
  simp only at hauthorList hsubjects hrendition
  simp only [mk.injEq]
  exact ⟨hscalar .title, hscalar .subtitle, hscalar .shortTitle, hscalar .collectionTitle,
    hscalar .editionTitle, hscalar .expandedTitle, hscalar .fullTitle, hscalar .uniqueId,
    hscalar .urlSafeUniqueId, hscalar .packageId, hscalar .basePath, hscalar .type,
    hscalar .version, hscalar .isbn, hscalar .language, hscalar .copyrightOwner,
    hscalar .source, hscalar .authors, hauthorList, hsubjects, hscalar .modificationDate,
    hscalar .pageProgressionDirection, hrendition⟩

/-- What was assigned is read back from the slot of its field, and from no other. -/
theorem scalar_assign (m : Metadata) (field : MetadataField) (value : Option String)
    (other : MetadataField) :
    (m.assign field value).scalar other = if other = field then value else m.scalar other := by
  cases field <;> cases other <;> rfl

/-- The slots of the fields stand beside the lists and the rendition. -/
theorem scalar_beside (m : Metadata) (authorList subjects : List String) (rendition : Rendition)
    (field : MetadataField) :
    { m with authorList, subjects, rendition : Metadata }.scalar field = m.scalar field := by
  cases field <;> rfl

/-- After one assignment to each of several fields a slot holds the value for its
field, if that is among them, and else what it held before. -/
theorem scalar_foldl_assign (value : MetadataField → Option String) (fields : List MetadataField)
    (m : Metadata) (other : MetadataField) :
    (fields.foldl (fun m field => m.assign field (value field)) m).scalar other
      = if other ∈ fields then value other else m.scalar other := by
  induction fields generalizing m with
  | nil => rfl
  | cons field fields ih =>
    rw [List.foldl_cons, ih, scalar_assign]
    -- a later assignment to the same field wins, and gives the same value
    by_cases hlater : other ∈ fields
    · rw [if_pos hlater, if_pos (List.mem_cons_of_mem _ hlater)]
    · rw [if_neg hlater]
      by_cases heq : other = field
      · rw [if_pos heq, if_pos (heq ▸ List.mem_cons_self), heq]
      · have hnot : other ∉ field :: fields := by
          rw [List.mem_cons, not_or]
          exact ⟨heq, hlater⟩
        rw [if_neg heq, if_neg hnot]

/-- **One assignment to each field fills every slot** but the lists and the
rendition, whatever was there before. -/
theorem foldl_assign (m n : Metadata) :
    { MetadataField.all.foldl (fun m field => m.assign field (n.scalar field)) m with
      authorList := n.authorList
      subjects := n.subjects
      rendition := n.rendition } = n := by
  refine eq_of_scalar ?_ rfl rfl rfl
  intro field
  rw [scalar_beside, scalar_foldl_assign, if_pos field.mem_all]

end Metadata

end EpubAccess
