/-!
# Extraction rules

The names and conventions that recognition looks for. The defaults describe a server of
decorated classes with a Prisma persistence service, and a client whose pages are files.
-/

namespace SystemSketch

/-- What recognition looks for in source text and in file names. -/
structure Rules where
  /-- The class through which the server reaches the database. -/
  persistenceService : String := "PrismaService"
  /-- The variable that holds the address of the server in a fetched template. -/
  apiBaseVariable : String := "apiUrl"
  /-- The text that shows that a page opens a realtime connection. -/
  realtimeHook : String := "useSocket()"
  /-- File names that stand for the directory they are in. -/
  pageFilenames : List String := ["page.tsx", "page.ts", "page.jsx", "page.js"]
  /-- How the name of a source file ends. -/
  sourceExtensions : List String := [".ts", ".tsx"]
  /-- Names of directories that hold no sources of the project. -/
  ignoreDirs : List String := ["node_modules", ".next", "dist", "logs", "public"]
  /-- Names of files that are no sources of the project. -/
  ignoreFiles : List String := [".DS_Store", "package-lock.json", "yarn.lock"]
  deriving DecidableEq

end SystemSketch
