import DocPull.Json.Shape

/-!
# The shape of a file of the Drive service

A file comes with many members that describe it. Few of them are ever read, but each has to have
its shape.
-/
namespace DocPull.Drive

open Json (Shape)

/-- Members of one shape. -/
def fieldsOf (s : Shape) (names : List String) : List (String × Shape) := names.map (·, s)

def userShape : Shape :=
  .record (fieldsOf .text ["displayName", "emailAddress", "kind", "permissionId", "photoLink"] ++
    fieldsOf .flag ["me"])

def capabilitiesShape : Shape :=
  .record (fieldsOf .flag
    ["canAcceptOwnership", "canAddChildren", "canAddFolderFromAnotherDrive", "canAddMyDriveParent",
      "canChangeCopyRequiresWriterPermission", "canChangeItemDownloadRestriction",
      "canChangeSecurityUpdateEnabled", "canChangeViewersCanCopyContent", "canComment", "canCopy",
      "canDelete", "canDeleteChildren", "canDisableInheritedPermissions", "canDownload", "canEdit",
      "canEnableInheritedPermissions", "canListChildren", "canModifyContent",
      "canModifyContentRestriction", "canModifyEditorContentRestriction", "canModifyLabels",
      "canModifyOwnerContentRestriction", "canMoveChildrenOutOfDrive",
      "canMoveChildrenOutOfTeamDrive", "canMoveChildrenWithinDrive",
      "canMoveChildrenWithinTeamDrive", "canMoveItemIntoTeamDrive", "canMoveItemOutOfDrive",
      "canMoveItemOutOfTeamDrive", "canMoveItemWithinDrive", "canMoveItemWithinTeamDrive",
      "canMoveTeamDriveItem", "canReadDrive", "canReadLabels", "canReadRevisions",
      "canReadTeamDrive", "canRemoveChildren", "canRemoveContentRestriction",
      "canRemoveMyDriveParent", "canRename", "canShare", "canTrash", "canTrashChildren",
      "canUntrash"])

/-- The shape of additional text and of a picture for a file. -/
def hintsShape : Shape :=
  .record [("indexableText", .text), ("thumbnail", .record (fieldsOf .text ["image", "mimeType"]))]

def imageShape : Shape :=
  .record (fieldsOf .float
      ["aperture", "exposureBias", "exposureTime", "focalLength", "maxApertureValue"] ++
    fieldsOf .text
      ["cameraMake", "cameraModel", "colorSpace", "exposureMode", "lens", "meteringMode", "sensor",
        "time", "whiteBalance"] ++
    fieldsOf .flag ["flashUsed"] ++
    fieldsOf .integer ["height", "isoSpeed", "rotation", "subjectDistance", "width"] ++
    [("location", .record (fieldsOf .float ["altitude", "latitude", "longitude"]))])

def videoShape : Shape :=
  .record (fieldsOf .quotedInteger ["durationMillis"] ++ fieldsOf .integer ["height", "width"])

def labelsShape : Shape :=
  let field : Shape := .record (fieldsOf .text ["id", "kind", "valueType"] ++
    fieldsOf (.list .text) ["dateString", "selection", "text"] ++
    [("integer", .list .integerItem), ("user", .list userShape)])
  .record [("labels", .list (.record (fieldsOf .text ["id", "kind", "revisionId"] ++
    [("fields", .dict field)])))]

def permissionShape : Shape :=
  let details (kind : String) : Shape :=
    .record (fieldsOf .flag ["inherited"] ++ fieldsOf .text ["inheritedFrom", "role", kind])
  .record (fieldsOf .flag
      ["allowFileDiscovery", "deleted", "inheritedPermissionsDisabled", "pendingOwner"] ++
    fieldsOf .text
      ["displayName", "domain", "emailAddress", "expirationTime", "id", "kind", "photoLink", "role",
        "type", "view"] ++
    [("permissionDetails", .list (details "permissionType")),
      ("teamDrivePermissionDetails", .list (details "teamDrivePermissionType"))])

def restrictionShape : Shape :=
  .record (fieldsOf .flag ["ownerRestricted", "readOnly", "systemRestricted"] ++
    fieldsOf .text ["reason", "restrictionTime", "type"] ++ [("restrictingUser", userShape)])

def downloadShape : Shape :=
  .record (fieldsOf (.record (fieldsOf .flag ["restrictedForReaders", "restrictedForWriters"]))
    ["effectiveDownloadRestrictionWithContext", "itemDownloadRestriction"])

def fileShape : Shape :=
  .record (fieldsOf .text
      ["createdTime", "description", "driveId", "fileExtension", "folderColorRgb",
        "fullFileExtension", "headRevisionId", "iconLink", "id", "kind", "md5Checksum", "mimeType",
        "modifiedByMeTime", "modifiedTime", "name", "originalFilename", "resourceKey",
        "sha1Checksum", "sha256Checksum", "sharedWithMeTime", "teamDriveId", "thumbnailLink",
        "trashedTime", "viewedByMeTime", "webContentLink", "webViewLink"] ++
    fieldsOf .flag
      ["copyRequiresWriterPermission", "explicitlyTrashed", "hasAugmentedPermissions",
        "hasThumbnail", "inheritedPermissionsDisabled", "isAppAuthorized", "modifiedByMe",
        "ownedByMe", "shared", "starred", "trashed", "viewedByMe", "viewersCanCopyContent",
        "writersCanShare"] ++
    fieldsOf .quotedInteger ["quotaBytesUsed", "size", "thumbnailVersion", "version"] ++
    fieldsOf (.list .text) ["parents", "permissionIds", "spaces"] ++
    fieldsOf (.dict .text) ["appProperties", "exportLinks", "properties"] ++
    fieldsOf userShape ["lastModifyingUser", "sharingUser", "trashingUser"] ++
    [("owners", .list userShape), ("permissions", .list permissionShape),
      ("contentRestrictions", .list restrictionShape), ("capabilities", capabilitiesShape),
      ("contentHints", hintsShape), ("downloadRestrictions", downloadShape),
      ("imageMediaMetadata", imageShape), ("labelInfo", labelsShape),
      ("linkShareMetadata",
        .record (fieldsOf .flag ["securityUpdateEligible", "securityUpdateEnabled"])),
      ("shortcutDetails",
        .record (fieldsOf .text ["targetId", "targetMimeType", "targetResourceKey"])),
      ("videoMediaMetadata", videoShape)])

end DocPull.Drive
