/-!
# Modules that are always there

A host root is found by its dotted path among the modules that have been made and those that come
with the system: the modules of the tool itself and of the standard distribution.  Only their names
and nesting matter here, because a root is judged by the markers it exports.
-/

namespace Deferred.Host

/-- Modules of the standard distribution that hold no other modules. -/
def plainModules : List String := [
  "__future__", "__hello__", "__main__", "_abc", "_aix_support", "_ast", "_asyncio", "_bisect",
  "_blake2", "_bootsubprocess", "_bz2", "_codecs", "_codecs_cn", "_codecs_hk",
  "_codecs_iso2022", "_codecs_jp", "_codecs_kr", "_codecs_tw", "_collections",
  "_collections_abc", "_compat_pickle", "_compression", "_contextvars", "_crypt", "_csv",
  "_ctypes", "_ctypes_test", "_curses", "_curses_panel", "_datetime", "_dbm", "_decimal",
  "_elementtree", "_frozen_importlib", "_frozen_importlib_external", "_functools", "_hashlib",
  "_heapq", "_imp", "_io", "_json", "_locale", "_lsprof", "_lzma", "_markupbase", "_md5",
  "_multibytecodec", "_multiprocessing", "_opcode", "_operator", "_osx_support", "_pickle",
  "_posixshmem", "_posixsubprocess", "_py_abc", "_pydecimal", "_pyio", "_queue", "_random",
  "_sha1", "_sha256", "_sha3", "_sha512", "_signal", "_sitebuiltins", "_socket", "_sqlite3",
  "_sre", "_ssl", "_stat", "_statistics", "_string", "_strptime", "_struct", "_symtable",
  "_testbuffer", "_testclinic", "_testimportmultiple", "_testinternalcapi", "_testmultiphase",
  "_thread", "_threading_local", "_tkinter", "_tokenize", "_tracemalloc", "_typing", "_uuid",
  "_warnings", "_weakref", "_weakrefset", "_xxsubinterpreters", "_xxtestfuzz", "_zoneinfo",
  "abc", "aifc", "antigravity", "argparse", "array", "ast", "asynchat", "asyncore", "atexit",
  "audioop", "base64", "bdb", "binascii", "bisect", "builtins", "bz2", "cProfile", "calendar",
  "cgi", "cgitb", "chunk", "cmath", "cmd", "code", "codecs", "codeop", "colorsys", "compileall",
  "configparser", "contextlib", "contextvars", "copy", "copyreg", "crypt", "csv", "dataclasses",
  "datetime", "decimal", "difflib", "dis", "doctest", "enum", "errno", "faulthandler", "fcntl",
  "filecmp", "fileinput", "fnmatch", "fractions", "ftplib", "functools", "gc", "genericpath",
  "getopt", "getpass", "gettext", "glob", "graphlib", "grp", "gzip", "hashlib", "heapq", "hmac",
  "imaplib", "imghdr", "imp", "inspect", "io", "ipaddress", "itertools", "keyword", "linecache",
  "locale", "lzma", "mailbox", "mailcap", "marshal", "math", "mimetypes", "mmap",
  "modulefinder", "netrc", "nntplib", "ntpath", "nturl2path", "numbers", "opcode", "operator",
  "optparse", "os", "ossaudiodev", "pathlib", "pdb", "pickle", "pickletools", "pipes",
  "pkgutil", "platform", "plistlib", "poplib", "posix", "posixpath", "pprint", "profile",
  "pstats", "pty", "pwd", "py_compile", "pyclbr", "pydoc", "pyexpat", "queue", "quopri",
  "random", "readline", "reprlib", "resource", "rlcompleter", "runpy", "sched", "secrets",
  "select", "selectors", "shelve", "shlex", "shutil", "signal", "site", "smtpd", "smtplib",
  "sndhdr", "socket", "socketserver", "spwd", "sre_compile", "sre_constants", "sre_parse",
  "ssl", "stat", "statistics", "string", "stringprep", "struct", "subprocess", "sunau",
  "symtable", "sys", "sysconfig", "syslog", "tabnanny", "tarfile", "telnetlib", "tempfile",
  "termios", "textwrap", "this", "threading", "time", "timeit", "token", "tokenize", "trace",
  "traceback", "tracemalloc", "tty", "turtle", "types", "typing", "typing_extensions",
  "unicodedata", "uu", "uuid", "warnings", "wave", "weakref", "webbrowser", "xdrlib",
  "xxsubtype", "zipapp", "zipfile", "zipimport", "zlib"]

/-- Packages of the standard distribution, each with the modules directly inside it. -/
def packages : List (String × List String) := [
  ("__phello__", ["spam"]),
  ("asyncio", [
    "base_events", "base_futures", "base_subprocess", "base_tasks", "constants", "coroutines",
    "events", "exceptions", "format_helpers", "futures", "locks", "log", "mixins",
    "proactor_events", "protocols", "queues", "runners", "selector_events", "sslproto",
    "staggered", "streams", "subprocess", "taskgroups", "tasks", "threads", "timeouts",
    "transports", "trsock", "unix_events", "__main__"]),
  ("collections", ["abc"]),
  ("concurrent", ["futures"]),
  ("concurrent.futures", ["_base", "process", "thread"]),
  ("ctypes", ["_aix", "_endian", "macholib", "util", "wintypes"]),
  ("ctypes.macholib", ["dyld", "dylib", "framework"]),
  ("curses", ["ascii", "has_key", "panel", "textpad"]),
  ("dbm", ["dumb", "ndbm"]),
  ("distutils", [
    "_msvccompiler", "archive_util", "bcppcompiler", "ccompiler", "cmd", "command", "config",
    "core", "cygwinccompiler", "debug", "dep_util", "dir_util", "dist", "errors", "extension",
    "fancy_getopt", "file_util", "filelist", "log", "msvccompiler", "spawn", "sysconfig",
    "text_file", "unixccompiler", "util", "version", "versionpredicate"]),
  ("distutils.command", [
    "bdist", "bdist_dumb", "bdist_rpm", "build", "build_clib", "build_ext", "build_py",
    "build_scripts", "check", "clean", "config", "install", "install_data", "install_egg_info",
    "install_headers", "install_lib", "install_scripts", "register", "sdist", "upload"]),
  ("email", [
    "_encoded_words", "_header_value_parser", "_parseaddr", "_policybase", "base64mime",
    "charset", "contentmanager", "encoders", "errors", "feedparser", "generator", "header",
    "headerregistry", "iterators", "message", "mime", "parser", "policy", "quoprimime", "utils"]),
  ("email.mime", [
    "application", "audio", "base", "image", "message", "multipart", "nonmultipart", "text"]),
  ("encodings", [
    "aliases", "ascii", "base64_codec", "big5", "big5hkscs", "bz2_codec", "charmap", "cp037",
    "cp1006", "cp1026", "cp1125", "cp1140", "cp1250", "cp1251", "cp1252", "cp1253", "cp1254",
    "cp1255", "cp1256", "cp1257", "cp1258", "cp273", "cp424", "cp437", "cp500", "cp720", "cp737",
    "cp775", "cp850", "cp852", "cp855", "cp856", "cp857", "cp858", "cp860", "cp861", "cp862",
    "cp863", "cp864", "cp865", "cp866", "cp869", "cp874", "cp875", "cp932", "cp949", "cp950",
    "euc_jis_2004", "euc_jisx0213", "euc_jp", "euc_kr", "gb18030", "gb2312", "gbk", "hex_codec",
    "hp_roman8", "hz", "idna", "iso2022_jp", "iso2022_jp_1", "iso2022_jp_2", "iso2022_jp_2004",
    "iso2022_jp_3", "iso2022_jp_ext", "iso2022_kr", "iso8859_1", "iso8859_10", "iso8859_11",
    "iso8859_13", "iso8859_14", "iso8859_15", "iso8859_16", "iso8859_2", "iso8859_3", "iso8859_4",
    "iso8859_5", "iso8859_6", "iso8859_7", "iso8859_8", "iso8859_9", "johab", "koi8_r", "koi8_t",
    "koi8_u", "kz1048", "latin_1", "mac_arabic", "mac_croatian", "mac_cyrillic", "mac_farsi",
    "mac_greek", "mac_iceland", "mac_latin2", "mac_roman", "mac_romanian", "mac_turkish",
    "palmos", "ptcp154", "punycode", "quopri_codec", "raw_unicode_escape", "rot_13", "shift_jis",
    "shift_jis_2004", "shift_jisx0213", "tis_620", "undefined", "unicode_escape", "utf_16",
    "utf_16_be", "utf_16_le", "utf_32", "utf_32_be", "utf_32_le", "utf_7", "utf_8", "utf_8_sig",
    "uu_codec", "zlib_codec"]),
  ("ensurepip", ["_uninstall"]),
  ("html", ["entities", "parser"]),
  ("http", ["client", "cookiejar", "cookies", "server"]),
  ("idlelib", [
    "autocomplete", "autocomplete_w", "autoexpand", "calltip", "calltip_w", "codecontext",
    "colorizer", "config", "config_key", "configdialog", "debugger", "debugger_r", "debugobj",
    "debugobj_r", "delegator", "dynoption", "editor", "filelist", "format", "grep", "help",
    "help_about", "history", "hyperparser", "iomenu", "macosx", "mainmenu", "multicall", "outwin",
    "parenmatch", "percolator", "pyparse", "query", "redirector", "replace", "rpc",
    "scrolledlist", "search", "searchbase", "searchengine", "sidebar", "squeezer", "stackviewer",
    "statusbar", "textview", "tooltip", "tree", "undo", "util", "window", "zoomheight", "zzdummy"]),
  ("importlib", [
    "_abc", "_bootstrap", "_bootstrap_external", "abc", "machinery", "metadata", "readers",
    "resources", "simple", "util"]),
  ("importlib.metadata", [
    "_adapters", "_collections", "_functools", "_itertools", "_meta", "_text"]),
  ("importlib.resources", [
    "_adapters", "_common", "_itertools", "_legacy", "abc", "readers", "simple"]),
  ("json", ["decoder", "encoder", "scanner", "tool"]),
  ("lib2to3", [
    "btm_matcher", "btm_utils", "fixer_base", "fixer_util", "fixes", "main", "patcomp", "pgen2",
    "pygram", "pytree", "refactor"]),
  ("lib2to3.fixes", [
    "fix_apply", "fix_asserts", "fix_basestring", "fix_buffer", "fix_dict", "fix_except",
    "fix_exec", "fix_execfile", "fix_exitfunc", "fix_filter", "fix_funcattrs", "fix_future",
    "fix_getcwdu", "fix_has_key", "fix_idioms", "fix_import", "fix_imports", "fix_imports2",
    "fix_input", "fix_intern", "fix_isinstance", "fix_itertools", "fix_itertools_imports",
    "fix_long", "fix_map", "fix_metaclass", "fix_methodattrs", "fix_ne", "fix_next",
    "fix_nonzero", "fix_numliterals", "fix_operator", "fix_paren", "fix_print", "fix_raise",
    "fix_raw_input", "fix_reduce", "fix_reload", "fix_renames", "fix_repr", "fix_set_literal",
    "fix_standarderror", "fix_sys_exc", "fix_throw", "fix_tuple_params", "fix_types",
    "fix_unicode", "fix_urllib", "fix_ws_comma", "fix_xrange", "fix_xreadlines", "fix_zip"]),
  ("lib2to3.pgen2", ["driver", "grammar", "literals", "parse", "pgen", "token", "tokenize"]),
  ("logging", ["config", "handlers"]),
  ("multiprocessing", [
    "connection", "context", "dummy", "forkserver", "heap", "managers", "pool", "popen_fork",
    "popen_forkserver", "popen_spawn_posix", "process", "queues", "reduction", "resource_sharer",
    "resource_tracker", "shared_memory", "sharedctypes", "spawn", "synchronize", "util"]),
  ("multiprocessing.dummy", ["connection"]),
  ("pydoc_data", ["topics"]),
  ("re", ["_casefix", "_compiler", "_constants", "_parser"]),
  ("sqlite3", ["dbapi2", "dump"]),
  ("tkinter", [
    "colorchooser", "commondialog", "constants", "dialog", "dnd", "filedialog", "font",
    "messagebox", "scrolledtext", "simpledialog", "tix", "ttk"]),
  ("tomllib", ["_parser", "_re", "_types"]),
  ("turtledemo", [
    "bytedesign", "chaos", "clock", "colormixer", "forest", "fractalcurves", "lindenmayer",
    "minimal_hanoi", "nim", "paint", "peace", "penrose", "planet_and_moon", "rosette",
    "round_dance", "sorting_animate", "tree", "two_canvases", "yinyang"]),
  ("unittest", [
    "_log", "async_case", "case", "loader", "main", "mock", "result", "runner", "signals",
    "suite", "util"]),
  ("urllib", ["error", "parse", "request", "response", "robotparser"]),
  ("venv", []),
  ("wsgiref", ["handlers", "headers", "simple_server", "types", "util", "validate"]),
  ("xml", ["dom", "etree", "parsers", "sax"]),
  ("xml.dom", [
    "NodeFilter", "domreg", "expatbuilder", "minicompat", "minidom", "pulldom", "xmlbuilder"]),
  ("xml.etree", ["ElementInclude", "ElementPath", "ElementTree", "cElementTree"]),
  ("xml.parsers", ["expat"]),
  ("xml.sax", ["_exceptions", "expatreader", "handler", "saxutils", "xmlreader"]),
  ("xmlrpc", ["client", "server"]),
  ("zoneinfo", ["_common", "_tzpath", "_zoneinfo"])]

/-- Modules that refuse to be loaded, each with its words. -/
def refusals : List (String × String) := [
  ("asyncio.windows_events", "win32 only"),
  ("asyncio.windows_utils", "win32 only"),
  ("dbm.gnu", "No module named '_gdbm'"),
  ("distutils.msvc9compiler", "No module named 'winreg'"),
  ("lib2to3.pgen2.conv", "No module named 'pgen2'"),
  ("multiprocessing.popen_spawn_win32", "No module named 'msvcrt'")]

/-- Distributions that the tool is built with, each package with the modules directly inside it. -/
def companions : List (String × List String) := [
  ("_distutils_hack", []),
  ("annotated_types", ["test_cases"]),
  ("click", [
    "_compat", "_termui_impl", "_textwrap", "_utils", "core", "decorators", "exceptions",
    "formatting", "globals", "parser", "shell_completion", "termui", "testing", "types",
    "utils"]),
  ("pip", ["_internal", "_vendor"]),
  ("pkg_resources", []),
  ("pydantic", [
    "_internal", "_migration", "alias_generators", "aliases", "annotated_handlers",
    "class_validators", "color", "config", "dataclasses", "datetime_parse", "decorator",
    "deprecated", "env_settings", "error_wrappers", "errors", "experimental", "fields",
    "functional_serializers", "functional_validators", "generics", "json", "json_schema",
    "main", "networks", "parse", "plugin", "root_model", "schema", "tools", "type_adapter",
    "types", "typing", "utils", "v1", "validate_call_decorator", "validators", "version",
    "warnings"]),
  ("pydantic_core", ["_pydantic_core", "core_schema"]),
  ("returns", [
    "_internal", "context", "contrib", "converters", "curry", "functions", "future",
    "interfaces", "io", "iterables", "maybe", "methods", "pipeline", "pointfree",
    "primitives", "result", "trampolines", "transducers", "unsafe"]),
  ("returns.primitives", [
    "asserts", "container", "exceptions", "hkt", "laws", "reawaitable", "tracing", "types"]),
  ("setuptools", []),
  ("typing_inspection", ["introspection", "typing_objects"])]

/-- The names that installed modules share with markers: the home of what is named, its name and
the modules that export it. -/
def sharedNames : List (String × String × List String) := [
  ("ast", "In", ["_ast", "ast"]),
  ("click.core", "Command", [
    "click", "click.core", "click.decorators", "click.shell_completion"]),
  ("distutils.cmd", "Command", [
    "distutils.cmd", "distutils.command.bdist", "distutils.command.bdist_dumb",
    "distutils.command.bdist_rpm", "distutils.command.build", "distutils.command.build_clib",
    "distutils.command.build_ext", "distutils.command.build_py",
    "distutils.command.build_scripts", "distutils.command.check", "distutils.command.clean",
    "distutils.command.config", "distutils.command.install", "distutils.command.install_data",
    "distutils.command.install_egg_info", "distutils.command.install_headers",
    "distutils.command.install_lib", "distutils.command.install_scripts",
    "distutils.command.sdist", "distutils.config", "distutils.core"]),
  ("idlelib.undo", "Command", ["idlelib.undo"]),
  ("imaplib", "Commands", ["imaplib"]),
  ("setuptools", "Command", ["setuptools"]),
  ("xml.dom.minidom", "Entity", ["xml.dom.minidom"])]

/-- The modules of the tool that hold other modules. -/
def ownPackages : List String :=
  ["commandify", "commandify.codegen", "commandify.ecs", "commandify.tests",
    "commandify.tests.codegen", "commandify.tests.ecs"]

/-- The modules of the tool that hold no other modules. -/
def ownModules : List String :=
  ["commandify.classify", "commandify.cli", "commandify.decorators", "commandify.errors",
    "commandify.host", "commandify.mode", "commandify.options", "commandify.pipeline",
    "commandify.prelude", "commandify.signature", "commandify.types",
    "commandify.codegen.assemble", "commandify.codegen.emitter", "commandify.codegen.fragments",
    "commandify.codegen.routing", "commandify.ecs.command", "commandify.ecs.entity",
    "commandify.ecs.errors", "commandify.ecs.system", "commandify.ecs.world"]

/-- Modules that are kept under the name of a module that holds no others. -/
def lodgers : List String := ["os.path", "typing.io", "typing.re"]

/-- Is this a package: a module that may hold other modules? -/
def isPackage (path : String) : Bool :=
  ownPackages.contains path || (packages.lookup path).isSome || (companions.lookup path).isSome

/-- Is this a module that is always there? -/
def isInstalled (path : String) : Bool :=
  isPackage path || ownModules.contains path || plainModules.contains path ||
    lodgers.contains path ||
    (packages ++ companions).any fun (package, inside) =>
      inside.any fun name => path = package ++ "." ++ name

end Deferred.Host
