import Gleaner.Site.Registry

/-!
The builtin site definitions: a tracker behind a login, whose pages are documents, and a public
index that answers in JSON.
-/
namespace Gleaner.Builtin

def text (selector : String) (filters : List FilterStep) : FieldQuery :=
  ⟨.one selector, none, none, filters⟩

def firstText (selectors : List String) (filters : List FilterStep) : FieldQuery :=
  ⟨.many selectors, none, none, filters⟩

def attr (selector name : String) (filters : List FilterStep) : FieldQuery :=
  ⟨.one selector, some name, none, filters⟩

def page (url : String) (params : List (String × Json)) : RequestTemplate :=
  { RequestTemplate.empty with url := some url, params := OrderedMap.ofList params }

def sdBitsCategories : List Category :=
  [⟨"Category", "cat",
      [⟨.num (.int 1), "Movie"⟩,
        ⟨.num (.int 2), "TV"⟩,
        ⟨.num (.int 3), "Documentary"⟩,
        ⟨.num (.int 4), "Music"⟩,
        ⟨.num (.int 5), "Sports"⟩,
        ⟨.num (.int 6), "Audio"⟩,
        ⟨.num (.int 7), "Stand-up Comedy"⟩]⟩]

def sdBitsSearchFields : FieldGroup :=
  OrderedMap.ofList
    [("id", attr "a[href*='details.php']" "href" [.call "query_param" ["id"]]),
      ("title", firstText ["a[href*='details.php'] b", "a[href*='details.php']"] []),
      ("url", attr "a[href*='details.php']" "href" []),
      ("link", attr "a[href*='download.php']" "href" []),
      ("size", text "td:nth-child(6)" [.named "find_then_parse_size"]),
      ("seeders", text "td:nth-child(8)" [.named "parse_number"]),
      ("leechers", text "td:nth-child(9)" [.named "parse_number"]),
      ("completed", text "td:nth-child(7)" [.named "find_then_parse_number"]),
      ("time", text "td:nth-child(5)" [.named "parse_time_with_zone"]),
      ("category", attr "td:first-child img" "alt" []),
      ("free", text "a[style^='color:#000099']" [])]

def sdBitsUserInfoFields : FieldGroup :=
  OrderedMap.ofList
    [("id", attr "a[href*='userdetails.php']" "href" [.call "query_param" ["id"]]),
      ("name", text "a[href*='userdetails.php']" []),
      ("messageCount",
        text "table[bgcolor*='red'] a[href*='inbox.php']" [.named "find_then_parse_number"]),
      ("uploaded", text "td.rowhead:contains('Uploaded') + td" [.named "find_then_parse_size"]),
      ("downloaded",
        text "td.rowhead:contains('Downloaded') + td" [.named "find_then_parse_size"]),
      ("ratio", text "td.rowhead:contains('Ratio') + td" [.named "parse_float"]),
      ("levelName", firstText ["td.rowhead:contains('Class') + td"] []),
      ("bonus", firstText ["td.heading:contains('Bonus') + td"] [.named "find_then_parse_number"]),
      ("joinTime",
        firstText ["td.rowhead:contains('Join date') + td"]
          [.call "split_first" [" ("], .named "parse_time_with_zone"])]

def sdBitsProfile : List ProfileStep :=
  [⟨page "/index.php" [], OrderedMap.empty,
      ["id", "name", "messageCount"], .document⟩,
    ⟨page "/userdetails.php" [], OrderedMap.ofList [("id", "id")],
      ["uploaded", "downloaded", "ratio", "levelName", "bonus", "joinTime"], .document⟩]

def sdBitsSearch : SearchSettings :=
  ⟨some "search", page "/browse.php" [], .document,
    some "table#torrent-list > tbody > tr:not(:first-child)", sdBitsCategories⟩

def sdBits : SiteDefinition where
  name := "SDBits"
  aka := ["SDB"]
  description := some "SDB, sister site of HDB"
  url := some "https://sdbits.org/"
  activateUrl := none
  host := none
  timezoneOffset := some "+0000"
  tags := ["movies", "general"]
  collaborator := some "luckiestone"
  authPolicy := .members
  search := sdBitsSearch
  profile := some sdBitsProfile
  groups := OrderedMap.ofList [("search", sdBitsSearchFields), ("userInfo", sdBitsUserInfoFields)]
  detailPath := some "/details.php?id=\x7bid\x7d"

def openIndexCategories : List Category :=
  [⟨"Kind", "kind",
      [⟨.str "video", "Video"⟩,
        ⟨.str "audio", "Audio"⟩,
        ⟨.str "software", "Software"⟩]⟩]

def openIndexSearchFields : FieldGroup :=
  OrderedMap.ofList
    [("id", text "id" []),
      ("title", firstText ["title", "name"] []),
      ("url", text "permalink" []),
      ("link", firstText ["magnet", "torrent_url"] []),
      ("size", firstText ["size_bytes", "size"] [.named "parse_size"]),
      ("seeders", text "stats.seeders" [.named "parse_number"]),
      ("leechers", text "stats.leechers" [.named "parse_number"]),
      ("time", text "uploaded_at" [.named "parse_time"]),
      ("category", text "kind" [])]

def openIndexSearch : SearchSettings :=
  ⟨some "q", page "/v1/search" [("limit", .num (.int 50))], .json,
    some "data.results", openIndexCategories⟩

def openIndex : SiteDefinition where
  name := "OpenIndex"
  aka := ["OI"]
  description := some "Public JSON search API for open-licensed media"
  url := some "https://api.openindex.example/"
  activateUrl := none
  host := none
  timezoneOffset := none
  tags := ["general", "public"]
  collaborator := none
  authPolicy := .everyone
  search := openIndexSearch
  profile := none
  groups := OrderedMap.ofList [("search", openIndexSearchFields)]
  detailPath := some "/t/\x7bid\x7d"

def sites : List SiteDefinition := [sdBits, openIndex]

def registry : SiteRegistry := SiteRegistry.ofList sites

end Gleaner.Builtin
