import QuizPackage.Path

/-!
# Media types

The media type of a file, guessed from its extension. This stands for an outside library, with the
common extensions of its table.
-/

namespace QuizPackage

/-- The media type of a file about which nothing is known. -/
def unknownMediaType : String := "application/octet-stream"

def mediaTypes : List (String × String) := [
  ("3g2", "video/3gpp2"),
  ("3gp", "video/3gpp"),
  ("7z", "application/x-7z-compressed"),
  ("aac", "audio/aac"),
  ("ac3", "audio/ac3"),
  ("ai", "application/postscript"),
  ("aif", "audio/aiff"),
  ("aifc", "audio/aiff"),
  ("aiff", "audio/aiff"),
  ("apk", "application/vnd.android.package-archive"),
  ("apng", "image/apng"),
  ("asf", "video/x-ms-asf"),
  ("asm", "text/plain"),
  ("atom", "application/atom+xml"),
  ("au", "audio/basic"),
  ("avi", "video/x-msvideo"),
  ("avif", "image/avif"),
  ("bmp", "image/bmp"),
  ("bz", "application/x-bzip"),
  ("bz2", "application/x-bzip2"),
  ("c", "text/plain"),
  ("cc", "text/plain"),
  ("cpp", "text/plain"),
  ("cs", "text/plain"),
  ("css", "text/css"),
  ("csv", "text/csv"),
  ("cxx", "text/plain"),
  ("doc", "application/msword"),
  ("docx", "application/vnd.openxmlformats-officedocument.wordprocessingml.document"),
  ("eml", "message/rfc822"),
  ("eot", "application/vnd.ms-fontobject"),
  ("eps", "application/postscript"),
  ("epub", "application/epub+zip"),
  ("flac", "audio/flac"),
  ("flv", "video/x-flv"),
  ("gif", "image/gif"),
  ("gz", "application/gzip"),
  ("h", "text/plain"),
  ("hpp", "text/plain"),
  ("htm", "text/html"),
  ("html", "text/html"),
  ("ico", "image/x-icon"),
  ("ics", "text/calendar"),
  ("jar", "application/java-archive"),
  ("jfif", "image/jpeg"),
  ("jpe", "image/jpeg"),
  ("jpeg", "image/jpeg"),
  ("jpg", "image/jpeg"),
  ("js", "text/javascript"),
  ("json", "application/json"),
  ("jsonld", "application/ld+json"),
  ("jsx", "text/jscript"),
  ("log", "text/plain"),
  ("m4a", "audio/m4a"),
  ("m4v", "video/x-m4v"),
  ("markdown", "text/markdown"),
  ("md", "text/markdown"),
  ("mkv", "video/x-matroska"),
  ("mov", "video/quicktime"),
  ("mp3", "audio/mpeg"),
  ("mp4", "video/mp4"),
  ("mpe", "video/mpeg"),
  ("mpeg", "video/mpeg"),
  ("mpg", "video/mpeg"),
  ("odp", "application/vnd.oasis.opendocument.presentation"),
  ("ods", "application/vnd.oasis.opendocument.spreadsheet"),
  ("odt", "application/vnd.oasis.opendocument.text"),
  ("oga", "audio/ogg"),
  ("ogg", "audio/ogg"),
  ("ogv", "video/ogg"),
  ("opus", "audio/ogg"),
  ("otf", "font/otf"),
  ("pdf", "application/pdf"),
  ("png", "image/png"),
  ("ppt", "application/vnd.ms-powerpoint"),
  ("pptx", "application/vnd.openxmlformats-officedocument.presentationml.presentation"),
  ("ps", "application/postscript"),
  ("rar", "application/x-rar-compressed"),
  ("rs", "text/x-rust"),
  ("rtf", "application/rtf"),
  ("sh", "application/x-sh"),
  ("svg", "image/svg+xml"),
  ("svgz", "image/svg+xml"),
  ("swf", "application/x-shockwave-flash"),
  ("tar", "application/x-tar"),
  ("tif", "image/tiff"),
  ("tiff", "image/tiff"),
  ("toml", "text/x-toml"),
  ("ts", "video/vnd.dlna.mpeg-tts"),
  ("tsv", "text/tab-separated-values"),
  ("ttf", "font/ttf"),
  ("txt", "text/plain"),
  ("vtt", "text/vtt"),
  ("wasm", "application/wasm"),
  ("wav", "audio/wav"),
  ("weba", "audio/webm"),
  ("webm", "video/webm"),
  ("webp", "image/webp"),
  ("wma", "audio/x-ms-wma"),
  ("wmv", "video/x-ms-wmv"),
  ("woff", "font/woff"),
  ("woff2", "font/woff2"),
  ("xhtml", "application/xhtml+xml"),
  ("xls", "application/vnd.ms-excel"),
  ("xlsx", "application/vnd.openxmlformats-officedocument.spreadsheetml.sheet"),
  ("xml", "text/xml"),
  ("xsd", "text/xml"),
  ("xsl", "text/xml"),
  ("yaml", "text/x-yaml"),
  ("yml", "text/x-yaml"),
  ("zip", "application/zip")]

/-- The small Latin letters that a character stands for when case is left aside. Ligatures and the
forms of s stand for the letters that they are made of. -/
def foldedLetters (c : Char) : List Char :=
  match c with
  | '\u00df' | '\u1e9e' => ['s', 's']
  | '\u017f' => ['s']
  | '\u212a' => ['k']
  | '\ufb00' => ['f', 'f']
  | '\ufb01' => ['f', 'i']
  | '\ufb02' => ['f', 'l']
  | '\ufb03' => ['f', 'f', 'i']
  | '\ufb04' => ['f', 'f', 'l']
  | '\ufb05' | '\ufb06' => ['s', 't']
  | c => [c.toLower]

/-- The media type of the file at a path. The case of its extension does not matter. -/
def mediaTypeOf (path : String) : String :=
  match Path.extension? path with
  | some extension =>
      let letters := String.ofList (extension.toList.flatMap foldedLetters)
      (mediaTypes.lookup letters).getD unknownMediaType
  | none => unknownMediaType

end QuizPackage
